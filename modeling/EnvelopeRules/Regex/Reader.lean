import EnvelopeRules.Regex.Tree
import EnvelopeRules.Text.CharKind
import EnvelopeRules.Unicode.Classes

/-!
# Reading a pattern

Groups and bracketed sets are kept on explicit stacks, so that reading is one pass over the text.
Every malformed pattern is refused in the same way.  In verbose mode blanks and comments between the
parts of a pattern do not count.
-/

namespace EnvelopeRules
namespace Regex

def isSpace (c : Char) : Bool := Unicode.whiteSpace.contains c

theorem length_dropWhile_le (p : Char → Bool) (cs : List Char) :
    (cs.dropWhile p).length ≤ cs.length := (List.dropWhile_sublist p).length_le

/-- What follows the line that a text is in. -/
def afterLine (cs : List Char) : List Char := cs.dropWhile (· ≠ '\n')

theorem length_afterLine_le (cs : List Char) : (afterLine cs).length ≤ cs.length :=
  length_dropWhile_le _ cs

def skipBlanks : List Char → List Char
  | [] => []
  | c :: cs =>
    if isSpace c then skipBlanks cs
    else if c = '#' then skipBlanks (afterLine cs)
    else c :: cs
termination_by cs => cs.length
decreasing_by
  · simp
  · have := length_afterLine_le cs
    simp only [List.length_cons]; omega

theorem length_skipBlanks_le (cs : List Char) : (skipBlanks cs).length ≤ cs.length := by
  fun_induction skipBlanks cs with
  | case1 => simp
  | case2 c cs _ ih => simp only [List.length_cons]; omega
  | case3 cs _ ih =>
    have := length_afterLine_le cs
    simp only [List.length_cons]; omega
  | case4 => simp

def skip (verbose : Bool) (cs : List Char) : List Char := if verbose then skipBlanks cs else cs

theorem length_skip_le (verbose : Bool) (cs : List Char) :
    (skip verbose cs).length ≤ cs.length := by
  unfold skip
  split
  · exact length_skipBlanks_le cs
  · exact Nat.le_refl _

/-- The characters of a kind at the front; blanks after each do not count in verbose mode. -/
def takeKind (verbose : Bool) (kind : Char → Bool) : List Char → List Char × List Char
  | [] => ([], [])
  | c :: rest =>
    if kind c then
      let r := takeKind verbose kind (skip verbose rest)
      (c :: r.1, r.2)
    else ([], c :: rest)
termination_by cs => cs.length
decreasing_by
  have := length_skip_le verbose rest
  simp; omega

/-- What stands before a closing character, and what follows it. -/
def takeUntil (verbose : Bool) (close : Char) (cs : List Char) :
    Option (List Char × List Char) :=
  match _h : skip verbose cs with
  | [] => none
  | c :: rest =>
    if c = close then some ([], rest)
    else (takeUntil verbose close rest).map fun r => (c :: r.1, r.2)
termination_by cs.length
decreasing_by
  have := length_skip_le verbose cs
  rw [_h] at this
  simp at this; omega

def ofDigits (digits : List Char) : Nat := Nat.ofDigitChars 10 digits 0

/-- A decimal count between blanks.  No digits give no count; a count needs 32 bits at most. -/
def count (verbose : Bool) (cs : List Char) : Option (Option Nat × List Char) :=
  let (digits, rest) := takeKind verbose Char.isDigit (cs.dropWhile isSpace)
  let rest := rest.dropWhile isSpace
  if digits.isEmpty then some (none, rest)
  else if ofDigits digits < UInt32.size then some (some (ofDigits digits), rest)
  else none

/-- The bounds of a counted repetition, after its opening brace, and whether it is greedy. -/
def bounds (verbose : Bool) (cs : List Char) : Option ((Nat × Option Nat × Bool) × List Char) := do
  let (low, rest) ← count verbose (skip verbose cs)
  let low ← low
  let (high, rest) ← match rest with
    | ',' :: r =>
      match skip verbose r with
      | '}' :: r => some (none, '}' :: r)
      | r => do
        let (high, r) ← count verbose r
        let high ← high
        if low ≤ high then some (some high, r) else none
    | r => some (some low, r)
  match rest with
  | '}' :: r =>
    match skip verbose r with
    | '?' :: r => some ((low, high, false), r)
    | r => some ((low, high, true), r)
  | _ => none

def charOfCode? (n : Nat) : Option Char :=
  if n.isValidChar then some (Char.ofNat n) else none

/-- A fixed number of hexadecimal digits. -/
def fixedHex (verbose : Bool) : Nat → Nat → List Char → Option (Nat × List Char)
  | 0, n, cs => some (n, cs)
  | _ + 1, _, [] => none
  | k + 1, n, c :: cs =>
    match CharSet.hexDigit? c with
    | some d => fixedHex verbose k (16 * n + d) (skip verbose cs)
    | none => none

/-- A character by its number, after the letter that gives the count of digits. -/
def hexLetter (verbose : Bool) (digits : Nat) (cs : List Char) : Option (Letter × List Char) :=
  match skip verbose cs with
  | '{' :: r => do
    let (hex, r) ← takeUntil verbose '}' r
    if hex.isEmpty ∨ hex.any (fun c => (CharSet.hexDigit? c).isNone) then none
    else
      let c ← charOfCode? (CharSet.ofHex hex)
      some (⟨c, false⟩, r)
  | r => do
    let (n, r) ← fixedHex verbose digits 0 r
    let c ← charOfCode? n
    some (⟨c, digits == 2⟩, r)

/-- Cuts a text at the first place where a separator stands. -/
def cutAt (sep : List Char) : List Char → Option (List Char × List Char)
  | [] => none
  | c :: cs =>
    if sep.isPrefixOf (c :: cs) then some ([], (c :: cs).drop sep.length)
    else (cutAt sep cs).map fun r => (c :: r.1, r.2)

/-- The signs between a property and its value, and whether each negates the class. -/
def valueSigns : List (List Char × Bool) := [(['!', '='], true), ([':'], false), (['='], false)]

/-- The class that a braced name asks for, and whether the name itself negates it. -/
def queryOfName (name : List Char) : ClassQuery × Bool :=
  let valued := valueSigns.findSome? fun sign =>
    (cutAt sign.1 name).map fun r => (ClassQuery.valued r.1 r.2, sign.2)
  valued.getD (.named name, false)

def unicodeClass (verbose negated : Bool) (cs : List Char) : Option (Tree × List Char) :=
  match skip verbose cs with
  | [] => none
  | '{' :: r => do
    let (name, r) ← takeUntil verbose '}' r
    let (query, flipped) := queryOfName name
    some (.unicode query (negated != flipped), r)
  | '\\' :: _ => none
  | c :: r => some (.unicode (.named [c]) negated, skip verbose r)

def isMeta (c : Char) : Bool :=
  c == '{' || c == '}' || "\\.+*?()|[]^$#&-~".toList.contains c

/-- ASCII characters that may follow a backslash to stand for themselves. -/
def isEscapable (c : Char) : Bool :=
  isMeta c || (c.toNat < 0x80 && !c.isAlphanum && c != '<' && c != '>')

def boundaryKind? (name : List Char) : Option Assertion :=
  if name = "start".toList then some .wordStart
  else if name = "end".toList then some .wordEnd
  else if name = "start-half".toList then some .wordStartHalf
  else if name = "end-half".toList then some .wordEndHalf
  else none

def isBoundaryLetter (c : Char) : Bool := c.isAlpha || c == '-'

/-- A word boundary, which a name in braces may specialise; other braces are left alone. -/
def wordBoundary (verbose : Bool) (cs : List Char) : Option (Tree × List Char) :=
  match cs with
  | '{' :: r =>
    match skip verbose r with
    | [] => none
    | c :: s =>
      if isBoundaryLetter c then
        match takeKind verbose isBoundaryLetter (c :: s) with
        | (name, '}' :: rest) => (boundaryKind? name).map fun kind => (.assertion kind, rest)
        | _ => none
      else some (.assertion .wordBoundary, cs)
  | _ => some (.assertion .wordBoundary, cs)

/-- What a backslash introduces. -/
def escape (verbose : Bool) : List Char → Option (Tree × List Char)
  | [] => none
  | c :: cs =>
    let letter := fun (d : Char) => some (Tree.letter ⟨d, false⟩, cs)
    if isEscapable c then letter c
    else match c with
    | 'x' => (hexLetter verbose 2 cs).map fun r => (.letter r.1, r.2)
    | 'u' => (hexLetter verbose 4 cs).map fun r => (.letter r.1, r.2)
    | 'U' => (hexLetter verbose 8 cs).map fun r => (.letter r.1, r.2)
    | 'p' => unicodeClass verbose false cs
    | 'P' => unicodeClass verbose true cs
    | 'd' => some (.shorthand .digit false, cs)
    | 'D' => some (.shorthand .digit true, cs)
    | 's' => some (.shorthand .space false, cs)
    | 'S' => some (.shorthand .space true, cs)
    | 'w' => some (.shorthand .word false, cs)
    | 'W' => some (.shorthand .word true, cs)
    | 'a' => letter '\x07'
    | 'f' => letter '\x0c'
    | 't' => letter '\t'
    | 'n' => letter '\n'
    | 'r' => letter '\r'
    | 'v' => letter '\x0b'
    | 'A' => some (.assertion .startText, cs)
    | 'z' => some (.assertion .endText, cs)
    | 'b' => wordBoundary verbose cs
    | 'B' => some (.assertion .notWordBoundary, cs)
    | '<' => some (.assertion .wordStart, cs)
    | '>' => some (.assertion .wordEnd, cs)
    | _ => none

/-! ## Bracketed sets -/

def asciiClass? (name : List Char) : Option AsciiClass :=
  match String.ofList name with
  | "alnum" => some .alnum
  | "alpha" => some .alpha
  | "ascii" => some .ascii
  | "blank" => some .blank
  | "cntrl" => some .cntrl
  | "digit" => some .digit
  | "graph" => some .graph
  | "lower" => some .lower
  | "print" => some .print
  | "punct" => some .punct
  | "space" => some .space
  | "upper" => some .upper
  | "word" => some .word
  | "xdigit" => some .xdigit
  | _ => none

/-- A class such as `[:alpha:]`, after its opening bracket. -/
def asciiItem? : List Char → Option (SetItem × List Char)
  | ':' :: cs =>
    let (negated, cs) := match cs with
      | '^' :: r => (true, r)
      | r => (false, r)
    match cs.dropWhile (· ≠ ':') with
    | ':' :: ']' :: rest =>
      (asciiClass? (cs.takeWhile (· ≠ ':'))).map fun kind => (.ascii kind negated, rest)
    | _ => none
  | _ => none

/-- A bracketed set that is still open: its items so far, last first, and an operation that waits
for its right side. -/
structure OpenSet where
  negated : Bool
  items : List SetItem
  pending : Option (SetOp × SetExpr)

def OpenSet.expr (s : OpenSet) : SetExpr :=
  let rhs := SetExpr.union s.items.reverse
  match s.pending with
  | some (op, lhs) => .binary op lhs rhs
  | none => rhs

def OpenSet.push (s : OpenSet) (item : SetItem) : OpenSet := { s with items := item :: s.items }

def OpenSet.operate (s : OpenSet) (op : SetOp) : OpenSet :=
  { s with items := [], pending := some (op, s.expr) }

/-- Opens a set, after its bracket: a negation, hyphens, and a closing bracket that comes first
stand for themselves. -/
def openSet (verbose : Bool) (cs : List Char) : Option (OpenSet × List Char) :=
  let (negated, cs) := match skip verbose cs with
    | '^' :: r => (true, skip verbose r)
    | r => (false, r)
  let (hyphens, cs) := takeKind verbose (· == '-') cs
  let items := hyphens.map fun c => SetItem.letter ⟨c, false⟩
  match cs with
  | [] => none
  | ']' :: r =>
    if hyphens.isEmpty then
      match skip verbose r with
      | [] => none
      | r => some (⟨negated, [.letter ⟨']', false⟩], none⟩, r)
    else some (⟨negated, items, none⟩, cs)
  | _ => some (⟨negated, items, none⟩, cs)

def setPrimitive (verbose : Bool) : List Char → Option (Tree × List Char)
  | [] => none
  | '\\' :: cs => escape verbose cs
  | c :: cs => some (.letter ⟨c, false⟩, cs)

def setItemOf : Tree → Option SetItem
  | .letter l => some (.letter l)
  | .shorthand kind negated => some (.shorthand kind negated)
  | .unicode query negated => some (.unicode query negated)
  | _ => none

/-- The next character that counts, seen past blanks and one comment sign. -/
def peek (verbose : Bool) (cs : List Char) : Option Char :=
  if verbose then
    match cs.dropWhile isSpace with
    | '#' :: r => (r.dropWhile isSpace).head?
    | [] => cs.head?
    | c :: _ => some c
  else cs.head?

/-- One item of a set or a range of two. -/
def setRange (verbose : Bool) (cs : List Char) : Option (SetItem × List Char) := do
  let (first, rest) ← setPrimitive verbose cs
  match skip verbose rest with
  | [] => none
  | '-' :: r =>
    if peek verbose r = some ']' ∨ peek verbose r = some '-' then
      let item ← setItemOf first
      some (item, '-' :: r)
    else
      let (second, rest) ← setPrimitive verbose (skip verbose r)
      match first, second with
      | .letter lo, .letter hi => if lo.char ≤ hi.char then some (.range lo hi, rest) else none
      | _, _ => none
  | r =>
    let item ← setItemOf first
    some (item, r)

/-- Reads on to the end of the outermost of the open sets. -/
def readSet (verbose : Bool) (cur : OpenSet) (outer : List OpenSet) (cs : List Char) :
    Option (Tree × List Char) :=
  let again := fun (cur : OpenSet) (outer : List OpenSet) (rest : List Char) =>
    if _h : rest.length < cs.length then readSet verbose cur outer rest else none
  match skip verbose cs with
  | [] => none
  | '[' :: r =>
    match asciiItem? r with
    | some (item, rest) => again (cur.push item) outer rest
    | none => match openSet verbose r with
      | some (inner, rest) => again inner (cur :: outer) rest
      | none => none
  | ']' :: r =>
    match outer with
    | [] => some (.set cur.negated cur.expr, r)
    | parent :: outer => again (parent.push (.nested cur.negated cur.expr)) outer r
  | '&' :: '&' :: r => again (cur.operate .inter) outer r
  | '-' :: '-' :: r => again (cur.operate .diff) outer r
  | '~' :: '~' :: r => again (cur.operate .symmDiff) outer r
  | r => match setRange verbose r with
    | some (item, rest) => again (cur.push item) outer rest
    | none => none
termination_by cs.length

/-! ## Groups -/

def flag? : Char → Option Flag
  | 'i' => some .ignoreCase
  | 'm' => some .multiLine
  | 's' => some .dotAll
  | 'U' => some .swapGreed
  | 'u' => some .unicode
  | 'R' => some .crlf
  | 'x' => some .verbose
  | _ => none

/-- The flags of a group up to the character that ends them.  A flag or a negation may not come
twice, and a negation needs a flag. -/
def readFlags (on : Bool) (dangling : Bool) (change : FlagChange) :
    List Char → Option (FlagChange × Char × List Char)
  | [] => none
  | c :: cs =>
    if c = ':' ∨ c = ')' then if dangling then none else some (change.reverse, c, cs)
    else if c = '-' then if on then readFlags false true change cs else none
    else match flag? c with
      | some f =>
        if change.any (fun item => item.1 = f) then none
        else readFlags on false ((f, on) :: change) cs
      | none => none

def isNameStart (c : Char) : Bool := c == '_' || CharKind.isLetter c

def isNamePart (c : Char) : Bool :=
  isNameStart c || c == '.' || c == '[' || c == ']' || CharKind.isNumber c

/-- The name of a group, up to its closing angle bracket. -/
def groupName (cs : List Char) : Option (List Char × List Char) :=
  match cs.takeWhile (· ≠ '>'), cs.dropWhile (· ≠ '>') with
  | c :: name, '>' :: rest =>
    if isNameStart c ∧ name.all isNamePart then some (c :: name, rest) else none
  | _, _ => none

inductive GroupKind where
  | plain (change : FlagChange)
  | capture (index : Nat)

/-- An open group: finished branches and the parts of the open one, both last first. -/
structure Level where
  branches : List Tree
  parts : List Tree
  kind : GroupKind
  outerVerbose : Bool

def Level.body (l : Level) : Tree :=
  Tree.ofBranches (Tree.ofParts l.parts.reverse :: l.branches).reverse

def Level.close (l : Level) : Tree :=
  match l.kind with
  | .plain change => .group change l.body
  | .capture index => .capture index l.body

def Level.push (l : Level) (t : Tree) : Level := { l with parts := t :: l.parts }

structure ReadState where
  verbose : Bool
  nextIndex : Nat
  names : List (List Char)
  level : Level
  outer : List Level

def ReadState.push (st : ReadState) (t : Tree) : ReadState := { st with level := st.level.push t }

def ReadState.openGroup (st : ReadState) (kind : GroupKind) (verbose : Bool) : ReadState :=
  { st with
    verbose
    level := { branches := [], parts := [], kind, outerVerbose := st.verbose }
    outer := st.level :: st.outer }

def ReadState.openCapture (st : ReadState) : ReadState :=
  { st.openGroup (.capture st.nextIndex) st.verbose with nextIndex := st.nextIndex + 1 }

/-- What an opening parenthesis introduces: a group or a change of flags. -/
def openGroup (st : ReadState) (cs : List Char) : Option (ReadState × List Char) :=
  let named := fun (rest : List Char) => do
    let (name, rest) ← groupName rest
    if st.names.contains name then none
    else some ({ st.openCapture with names := name :: st.names }, rest)
  match skip st.verbose cs with
  | '?' :: '=' :: _ => none
  | '?' :: '!' :: _ => none
  | '?' :: '<' :: '=' :: _ => none
  | '?' :: '<' :: '!' :: _ => none
  | '?' :: 'P' :: '<' :: r => named r
  | '?' :: '<' :: r => named r
  | '?' :: r => do
    let (change, close, rest) ← readFlags true false [] r
    let verbose := (change.state? .verbose).getD st.verbose
    if close = ')' then
      if change.isEmpty then none
      else some ({ st.push (.flags change) with verbose }, rest)
    else some (st.openGroup (.plain change) verbose, rest)
  | r => some (st.openCapture, r)

/-- Repeats the last part; nothing and a change of flags cannot be repeated. -/
def repeatLast (st : ReadState) (low : Nat) (high : Option Nat) (greedy : Bool) :
    Option ReadState :=
  match st.level.parts with
  | [] => none
  | .empty :: _ => none
  | .flags _ :: _ => none
  | t :: rest =>
    some { st with level := { st.level with parts := .repeated low high greedy t :: rest } }

def repeatUncounted (st : ReadState) (low : Nat) (high : Option Nat) :
    List Char → Option (ReadState × List Char)
  | '?' :: r => (repeatLast st low high false).map fun st => (st, r)
  | r => (repeatLast st low high true).map fun st => (st, r)

/-- Reads one part of a pattern. -/
def step (st : ReadState) : List Char → Option (ReadState × List Char)
  | [] => none
  | '(' :: r => openGroup st r
  | ')' :: r =>
    match st.outer with
    | [] => none
    | parent :: outer =>
      some ({ st with
        verbose := st.level.outerVerbose
        level := parent.push st.level.close
        outer }, r)
  | '|' :: r =>
    some ({ st with level := { st.level with
      branches := Tree.ofParts st.level.parts.reverse :: st.level.branches, parts := [] } }, r)
  | '[' :: r => do
    let (set, r) ← openSet st.verbose r
    let (tree, r) ← readSet st.verbose set [] r
    some (st.push tree, r)
  | '?' :: r => repeatUncounted st 0 (some 1) r
  | '*' :: r => repeatUncounted st 0 none r
  | '+' :: r => repeatUncounted st 1 none r
  | '{' :: r => do
    let ((low, high, greedy), r) ← bounds st.verbose r
    let st ← repeatLast st low high greedy
    some (st, r)
  | '\\' :: r => (escape st.verbose r).map fun p => (st.push p.1, p.2)
  | '.' :: r => some (st.push .dot, r)
  | '^' :: r => some (st.push (.assertion .startLine), r)
  | '$' :: r => some (st.push (.assertion .endLine), r)
  | c :: r => some (st.push (.letter ⟨c, false⟩), r)

/-- Reads the rest of a pattern. -/
def readParts (st : ReadState) (cs : List Char) : Option ReadState :=
  match skip st.verbose cs with
  | [] => if st.outer.isEmpty then some st else none
  | r => match step st r with
    | some (st, rest) => if _h : rest.length < cs.length then readParts st rest else none
    | none => none
termination_by cs.length

/-- The deepest nesting that is read. -/
def nestLimit : Nat := 250

/-- The tree of a well-formed pattern. -/
def read? (pattern : List Char) : Option Tree := do
  let st ← readParts ⟨false, 1, [], ⟨[], [], .plain [], false⟩, []⟩ pattern
  let tree := st.level.body
  if tree.depth ≤ nestLimit then some tree else none

end Regex
end EnvelopeRules
