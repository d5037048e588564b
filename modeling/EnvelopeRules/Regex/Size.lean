import EnvelopeRules.Regex.Opening
import EnvelopeRules.Regex.Spelling
import EnvelopeRules.Regex.Trie
import Std.Data.HashMap.Basic

/-!
# How large a pattern is when compiled

The size is that of two byte automata, one that reads forward and records groups and one that reads
backward.  Their states are laid out one after another under a limit.  A state counts 32 bytes, an
edge of a state with several 8, an alternative of a choice 4.  A pattern that is only looked for as
a choice between texts needs no automaton.
-/

namespace EnvelopeRules
namespace Regex
namespace Size

inductive Direction where
  | forward | backward
  deriving DecidableEq, Repr

/-- How much of an automaton has been laid out. -/
structure Layout where
  limit : Nat
  states : Nat
  bytes : Nat

/-- Laying out states; none if they need more bytes than allowed. -/
abbrev Build := StateT Layout Option

def stateBytes : Nat := 32
def edgeBytes : Nat := 8
def alternativeBytes : Nat := 4

/-- Adds a state with some bytes for where it leads, and gives its number. -/
def addState (more : Nat) : Build Nat := fun l =>
  let bytes := l.bytes + stateBytes + more
  if bytes ≤ l.limit then some (l.states, { l with states := l.states + 1, bytes }) else none

/-- Adds a state that needs nothing else. -/
def addPlain : Build Unit := do let _ ← addState 0

/-- Adds a state with a table of edges. -/
def addTable (edges : Nat) : Build Unit := do let _ ← addState (edgeBytes * edges)

/-- Adds a choice between some states. -/
def addChoice (alternatives : Nat) : Build Unit := do
  let _ ← addState (alternativeBytes * alternatives)

/-- The same layout some number of times in a row. -/
def times (build : Build Unit) : Nat → Build Unit
  | 0 => pure ()
  | n + 1 => do build; times build n

/-! ## Sets of characters

States that read the same bytes on the way to the same state are shared as long as they are
remembered.  A place in memory is chosen by a hash and remembers only what came to it last.
-/

def hashBasis : UInt64 := 14695981039346656037
def hashFactor : UInt64 := 1099511628211

def hashOf (key : List Nat) : UInt64 :=
  key.foldl (fun h n => (h ^^^ UInt64.ofNat n) * hashFactor) hashBasis

/-- What is remembered at each place: a key and the state made for it. -/
abbrev Memory := Std.HashMap Nat (List Nat × Nat)

abbrev Sharing := StateT Memory Build

/-- The state that is remembered under a key, or else a new one. -/
def share (places : Nat) (key : List Nat) (more : Nat) : Sharing Nat := do
  let place := (hashOf key).toNat % places
  match (← get)[place]? with
  | some (old, id) => if old = key then return id else make place
  | none => make place
where
  /-- A new state, remembered at a place. -/
  make (place : Nat) : Sharing Nat := do
    let id ← addState more
    modify fun m => m.insert place (key, id)
    return id

def forwardPlaces : Nat := 10000
def backwardPlaces : Nat := 1000

/-- The state that reads some spellings of at most so many bytes and then goes to a target. -/
def reader (target : Nat) : Nat → List (List Spelling.ByteRange) → Sharing Nat
  | 0, _ => return target
  | n + 1, spellings =>
    if spellings = [[]] then return target
    else do
      let edges ← (Spelling.groupByHead spellings).mapM fun (range, rests) => do
        return [range.1, range.2, ← reader target n rests]
      share forwardPlaces edges.flatten (edgeBytes * edges.length)

/-- The states that read a spelling from its end; `next` is where its first byte leads. -/
def backwardReader (next : Nat) : List Spelling.ByteRange → Sharing Nat
  | [] => return next
  | range :: rest => do
    backwardReader (← share backwardPlaces [next, range.1, range.2] 0) rest

def addSet (dir : Direction) (s : CharSet) : Build Unit := do
  if s.isAscii then addPlain; addTable s.ranges.length
  else
    let spellings := Spelling.ofSet s
    match dir with
    | .forward =>
      let target ← addState 0
      let _ ← (reader target Spelling.maxLength spellings).run ∅
    | .backward =>
      addChoice spellings.length
      let target ← addState 0
      let _ ← (spellings.mapM (backwardReader target)).run ∅

/-! ## Choices between texts -/

mutual

/-- What each state of a choice between texts needs. -/
def trieBytes : Trie → List Nat
  | .node lists =>
    alternativeBytes * (nonemptyLists lists + (lists.length - 1)) :: listBytes lists

def nonemptyLists : List (List (UInt8 × Trie)) → Nat
  | [] => 0
  | list :: rest => (if list.isEmpty then 0 else 1) + nonemptyLists rest

/-- A state for each list that is not empty; one branch needs no table. -/
def listBytes : List (List (UInt8 × Trie)) → List Nat
  | [] => []
  | list :: rest =>
    (if list.isEmpty then [] else if list.length = 1 then [0] else [edgeBytes * list.length]) ++
      branchBytes list ++ listBytes rest

def branchBytes : List (UInt8 × Trie) → List Nat
  | [] => []
  | (_, t) :: rest => (if t.isLeaf then [] else trieBytes t) ++ branchBytes rest

end

def spelled (dir : Direction) (text : List Char) : List UInt8 :=
  let bytes := text.flatMap String.utf8EncodeChar
  match dir with
  | .forward => bytes
  | .backward => bytes.reverse

def addTexts (dir : Direction) (texts : List (List Char)) : Build Unit := do
  addPlain
  (trieBytes (.ofTexts (texts.map (spelled dir)))).forM fun more => discard (addState more)

/-! ## Patterns -/

/-- Copies of a body, or one state if there are none. -/
def addCopies (body : Build Unit) (n : Nat) : Build Unit :=
  if n = 0 then addPlain else times body n

def addRepetition (min : Nat) (max : Option Nat) (blank : Bool) (body : Build Unit) :
    Build Unit := do
  match max with
  | none =>
    if min = 0 then
      if blank then body; addChoice 2; addChoice 2; addPlain
      else addChoice 2; body
    else times body min; addChoice 2
  | some high =>
    if min = 0 ∧ high = 1 then addChoice 2; body; addPlain
    else if min = high then addCopies body min
    else addCopies body min; addPlain; times (do addChoice 2; body) (high - min)

mutual

def addPattern (dir : Direction) : Pattern → Build Unit
  | .empty => addPlain
  | .literal text => times addPlain (Pattern.utf8Length text)
  | .set s _ => addSet dir s
  | .look _ => addPlain
  | .repetition min max _ body =>
    addRepetition min max body.canBeEmpty (addPattern dir body)
  | .capture _ body =>
    match dir with
    | .forward => do addPlain; addPattern dir body; addPlain
    | .backward => addPattern dir body
  | .concat parts => addAll dir parts
  | .alternation branches =>
    match Pattern.literals? branches with
    | some texts => addTexts dir texts
    | none => addBranches dir branches.length 0 branches

/-- The parts of a sequence in the order in which they are read. -/
def addAll (dir : Direction) : List Pattern → Build Unit
  | [] => pure ()
  | p :: ps =>
    match dir with
    | .forward => do addPattern dir p; addAll dir ps
    | .backward => do addAll dir ps; addPattern dir p

/-- The branches of a choice; the choice itself and its end come after the second one. -/
def addBranches (dir : Direction) (count : Nat) : Nat → List Pattern → Build Unit
  | _, [] => pure ()
  | index, p :: ps => do
    addPattern dir p
    if index = 1 then addChoice count; addPlain
    addBranches dir count (index + 1) ps

end

/-- The loop that skips to the start of a match. -/
def addSkip : Build Unit := do addChoice 2; addPlain; addTable 1

/-- A beginning for a pattern that is anchored or not. -/
def addEntry (anchored : Bool) : Build Unit := if anchored then addPlain else addSkip

def addForward (p : Pattern) : Build Unit := do
  addEntry (p.startsWith .textStart)
  addPattern .forward (.capture 0 p)
  addPlain

def addBackward (p : Pattern) : Build Unit := do
  addEntry (p.endsWith .textEnd)
  addPattern .backward p
  addPlain

/-- Whether something can be laid out in so many bytes. -/
def fits (limit : Nat) (build : Build Unit) : Bool := (build.run ⟨limit, 0, 0⟩).isSome

/-- Whether a pattern needs more bytes than allowed. -/
def exceeds (limit : Nat) (p : Pattern) : Bool :=
  !(p.isTextSearch || (fits limit (addForward p) && fits limit (addBackward p)))

end Size
end Regex
end EnvelopeRules
