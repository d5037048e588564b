import EnvelopeRules.Toml.Scalar

/-!
# Documents

A document is a table that is written line by line.  Tables may be opened by a header or on the way
to a dotted name; which of them may be extended later, and how, depends on how they were opened.
-/

namespace EnvelopeRules
namespace Toml

/-- How deep arrays and inline tables may be nested, and how many parts a dotted name may have. -/
def depthLimit : Nat := 79

/-! ## Tables under construction -/

/-- How a table came to be: by its own header or braces, on the way to a longer header, or on the
way to a dotted name. -/
inductive Origin where
  | stated | headerPath | dottedName
  deriving DecidableEq, Repr

inductive Node where
  | value (v : Value)
  | table (origin : Origin) (entries : List (String × Node))
  | tables (last : List (String × Node)) (before : List (List (String × Node)))

/-- A table under construction. -/
structure Body where
  origin : Origin
  entries : List (String × Node)

namespace Body

def empty : Body := ⟨.stated, []⟩

def find? (b : Body) (name : String) : Option Node := Table.lookup name b.entries

def set (b : Body) (name : String) (n : Node) : Body :=
  { b with entries := Table.place name n b.entries }

/-- Changes the table at the end of a path; tables on the way are opened.  A dotted name may not go
through tables that were stated. -/
def change (dotted : Bool) (f : Body → Option Body) : List String → Body → Option Body
  | [], b => f b
  | name :: path, b =>
    match b.find? name with
    | none => do
      let origin := if dotted then .dottedName else .headerPath
      let inner ← change dotted f path ⟨origin, []⟩
      return b.set name (.table inner.origin inner.entries)
    | some (.value _) => none
    | some (.tables last before) => do
      let inner ← change dotted f path ⟨.stated, last⟩
      return b.set name (.tables inner.entries before)
    | some (.table origin entries) =>
      if dotted ∧ origin = .stated then none
      else do
        let inner ← change dotted f path ⟨origin, entries⟩
        return b.set name (.table inner.origin inner.entries)

def putNew (name : String) (v : Value) (b : Body) : Option Body :=
  match b.find? name with
  | none => some (b.set name (.value v))
  | some _ => none

/-- Puts a value under a dotted name; all but the last part name tables that only dotted names
open. -/
def putDotted (path : List String) (name : String) (v : Value) (b : Body) : Option Body :=
  b.change true (fun inner =>
    if !path.isEmpty && inner.origin != .dottedName then none else inner.putNew name v) path

/-- States a table: it is new or was only passed by other headers. -/
def stateTable (name : String) (b : Body) : Option Body :=
  match b.find? name with
  | none => some (b.set name (.table .stated []))
  | some (.table .headerPath entries) => some (b.set name (.table .stated entries))
  | some _ => none

/-- Adds a table to an array of tables. -/
def appendTable (name : String) (b : Body) : Option Body :=
  match b.find? name with
  | none => some (b.set name (.tables [] []))
  | some (.tables last before) => some (b.set name (.tables [] (last :: before)))
  | some _ => none

end Body

mutual

def Node.toValue : Node → Value
  | .value v => v
  | .table _ entries => .table (entryValues entries)
  | .tables last before => .array ((.table (entryValues last) :: tableValues before).reverse)

def entryValues : List (String × Node) → List (String × Value)
  | [] => []
  | (name, n) :: rest => (name, n.toValue) :: entryValues rest

def tableValues : List (List (String × Node)) → List Value
  | [] => []
  | t :: rest => .table (entryValues t) :: tableValues rest

end

/-! ## Names -/

def isBareChar (c : Char) : Bool := c.isAlphanum || c == '_' || c == '-'

def simpleName : Reader String
  | '"' :: rest => (basicText rest).map fun r => (String.ofList r.1, r.2)
  | '\'' :: rest => (literalText rest).map fun r => (String.ofList r.1, r.2)
  | cs =>
    let bare := cs.takeWhile isBareChar
    if bare.isEmpty then none else some (String.ofList bare, cs.drop bare.length)

/-- A dotted name with blanks around each part. -/
def dottedName (cs : List Char) : Option (List String × List Char) := do
  let (name, rest) ← simpleName (skipBlanks cs)
  match skipBlanks rest with
  | '.' :: more =>
    if _h : more.length < cs.length then
      let (names, rest) ← dottedName more
      return (name :: names, rest)
    else none
  | rest => return ([name], rest)
termination_by cs.length

/-- A dotted name of bounded length, cut before its last part. -/
def path : Reader (List String × String) := fun cs => do
  let (names, rest) ← dottedName cs
  let last ← names.getLast?
  if names.length ≤ depthLimit then return ((names.dropLast, last), rest) else none

/-! ## Arrays and inline tables -/

/-- Skips blanks, comments and line ends. -/
def skipLayout (cs : List Char) : List Char :=
  match skipComment (skipBlanks cs) with
  | [] => []
  | c :: rest =>
    match lineEnd? (c :: rest) with
    | some more => if _h : more.length < cs.length then skipLayout more else c :: rest
    | none => skipBlanks cs
termination_by cs.length

/-- Array items up to the closing bracket.  A comma may stand before it. -/
def arrayItems (item : Reader Value) (cs : List Char) : Option (List Value × List Char) :=
  match skipLayout cs with
  | ']' :: rest => some ([], rest)
  | cs' => do
    let (v, rest) ← item cs'
    match skipLayout rest with
    | ',' :: more =>
      if _h : more.length < cs.length then
        let (vs, rest) ← arrayItems item more
        return (v :: vs, rest)
      else none
    | ']' :: rest => return ([v], rest)
    | _ => none
termination_by cs.length

/-- One entry of a table: a dotted name, an equals sign and a value. -/
def entry (item : Reader Value) : Reader ((List String × String) × Value) := fun cs => do
  let (name, rest) ← path cs
  match rest with
  | '=' :: rest =>
    let (v, rest) ← item (skipBlanks rest)
    return ((name, v), rest)
  | _ => none

/-- The entries of an inline table up to its closing brace, the first of them read. -/
def inlineEntries (item : Reader Value) (b : Body) (cs : List Char) :
    Option (Body × List Char) := do
  let ((name, v), rest) ← entry item cs
  let b ← b.putDotted name.1 name.2 v
  match skipBlanks rest with
  | ',' :: more => if _h : more.length < cs.length then inlineEntries item b more else none
  | '}' :: rest => return (b, rest)
  | _ => none
termination_by cs.length

def inlineTable (item : Reader Value) : Reader Value := fun cs =>
  match skipBlanks cs with
  | '}' :: rest => some (.table [], rest)
  | cs => (inlineEntries item .empty cs).map fun r => (.table (entryValues r.1.entries), r.2)

/-- A value with so many levels of nesting at most. -/
def value : Nat → Reader Value
  | 0, '[' :: _ => none
  | 0, '{' :: _ => none
  | n + 1, '[' :: cs => (arrayItems (value n) cs).map fun r => (.array r.1, r.2)
  | n + 1, '{' :: cs => inlineTable (value n) cs
  | _, cs => scalar cs

/-! ## Lines -/

/-- A document as read so far: the table of all, and where the newest header led. -/
structure Draft where
  root : Body
  header : List String

namespace Draft

def openTable (d : Draft) (parents : List String) (name : String) : Option Draft := do
  let root ← d.root.change false (Body.stateTable name) parents
  return ⟨root, parents ++ [name]⟩

def appendTable (d : Draft) (parents : List String) (name : String) : Option Draft := do
  let root ← d.root.change false (Body.appendTable name) parents
  return ⟨root, parents ++ [name]⟩

def put (d : Draft) (path : List String) (name : String) (v : Value) : Option Draft := do
  let root ← d.root.change false (Body.putDotted path name v) d.header
  return { d with root }

end Draft

/-- A table header or an entry. -/
def statement (d : Draft) : Reader Draft
  | '[' :: '[' :: rest => do
    let ((parents, name), rest) ← path rest
    match rest with
    | ']' :: ']' :: rest => return (← d.appendTable parents name, rest)
    | _ => none
  | '[' :: rest => do
    let ((parents, name), rest) ← path rest
    match rest with
    | ']' :: rest => return (← d.openTable parents name, rest)
    | _ => none
  | cs => do
    let (((parents, name), v), rest) ← entry (value depthLimit) cs
    return (← d.put parents name v, rest)

/-- The rest of a line: nothing but blanks and a comment. -/
def endOfLine (cs : List Char) : Option (List Char) :=
  match skipComment (skipBlanks cs) with
  | [] => some []
  | rest => lineEnd? rest

/-- Whether a line holds no statement. -/
def isEmptyLine : List Char → Bool
  | [] => true
  | c :: _ => c == '#' || c == '\n' || c == '\r'

def readLines (d : Draft) (cs : List Char) : Option Draft := do
  match skipBlanks cs with
  | [] => return d
  | c :: rest =>
    let (d, rest) ← if isEmptyLine (c :: rest) then some (d, c :: rest) else statement d (c :: rest)
    let rest ← endOfLine rest
    if rest.isEmpty then return d
    else if _h : rest.length < cs.length then readLines d rest
    else none
termination_by cs.length

/-- A mark of byte order may come first. -/
def skipByteOrderMark : List Char → List Char
  | c :: cs => if c = Char.ofNat 0xFEFF then cs else c :: cs
  | [] => []

def parse? (text : String) : Option (Table Value) := do
  let d ← readLines ⟨.empty, []⟩ (skipByteOrderMark text.toList)
  return .ofList (entryValues d.root.entries)

end Toml
end EnvelopeRules
