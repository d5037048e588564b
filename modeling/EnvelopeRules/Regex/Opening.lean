import EnvelopeRules.Regex.ByteRank
import EnvelopeRules.Regex.Pattern

/-!
# How matches of a pattern begin

An opening is a text that a match begins with.  A pattern that has few enough openings, all of them
whole matches, is only a choice between texts, and searching for it needs no automaton.
-/

namespace EnvelopeRules
namespace Regex

/-- A text that a match begins with, and whether it is all of the match. -/
structure Opening where
  bytes : List UInt8
  whole : Bool
  deriving DecidableEq, Repr

/-- The openings of a pattern in order of preference; none if a match may begin with anything. -/
abbrev Openings := Option (List Opening)

namespace Opening

def blank : Opening := ⟨[], true⟩

/-- The same opening of a longer match. -/
def unfinished (o : Opening) : Opening := { o with whole := false }

/-- The first bytes of an opening. -/
def take (n : Nat) (o : Opening) : Opening :=
  if o.bytes.length ≤ n then o else ⟨o.bytes.take n, false⟩

/-- An opening and what follows it. -/
def append (o p : Opening) : Opening := ⟨o.bytes ++ p.bytes, p.whole⟩

/-- Makes one of equal neighbours, which is whole if both are. -/
def merge : List Opening → List Opening
  | [] => []
  | [o] => [o]
  | o :: p :: rest =>
    if o.bytes = p.bytes then merge (⟨o.bytes, o.whole && p.whole⟩ :: rest)
    else o :: merge (p :: rest)
termination_by os => os.length

/-- Drops an opening that an earlier one is the beginning of. -/
def distinguish (os : List Opening) : List Opening :=
  (os.foldl (fun (kept : List Opening) o =>
    if kept.any fun k => k.bytes.isPrefixOf o.bytes then kept else o :: kept) []).reverse

def shortest (os : List Opening) : Nat :=
  match (os.map fun o => o.bytes.length).min? with
  | some n => n
  | none => 0

/-- What two texts both begin with. -/
def commonBytes : List UInt8 → List UInt8 → List UInt8
  | a :: as, b :: bs => if a = b then a :: commonBytes as bs else []
  | _, _ => []

/-- What all openings begin with. -/
def shared : List Opening → List UInt8
  | [] => []
  | o :: os => os.foldl (fun common p => commonBytes common p.bytes) o.bytes

/-- Whether an opening is too common to look for. -/
def isCommon (o : Opening) : Bool :=
  match o.bytes with
  | [] => true
  | [b] => decide (250 ≤ byteRank b)
  | _ => false

end Opening

namespace Openings

/-- How many characters a set may have, how often a text may be repeated, how long an opening may be
and how many there may be. -/
structure Limits where
  members : Nat
  repeats : Nat
  bytes : Nat
  total : Nat

def limits : Limits := ⟨10, 10, 100, 250⟩

/-- The length to which openings are cut to have fewer of them. -/
def cutLength : Nat := 4

def map (f : List Opening → List Opening) (o : Openings) : Openings := Option.map f o

/-- The openings of longer matches. -/
def unfinished (o : Openings) : Openings := o.map (·.map Opening.unfinished)

/-- Whether nothing that follows can change the openings. -/
def isClosed : Openings → Bool
  | none => true
  | some os => os.all fun o => !o.whole

def isWhole : Openings → Bool
  | none => false
  | some os => os.all Opening.whole

def hasBlank (os : List Opening) : Bool := os.any fun o => o.bytes.isEmpty

/-- The openings if there are not too many to go on with. -/
def within (factor : Nat → Nat) (o : Openings) : Openings :=
  o.filter fun os => decide (factor os.length ≤ limits.total)

/-- The openings of one part and then another. -/
def cross : Openings → Openings → Openings
  | none, _ => none
  | some os, next =>
    match within (os.length * ·) next with
    | none => if hasBlank os then none else some (os.map Opening.unfinished)
    | some ps =>
      let joined := os.flatMap fun o => if o.whole then ps.map o.append else [o]
      some ((Opening.merge joined).map (Opening.take limits.bytes))

/-- The openings of a part that is repeated some number of times, after others. -/
def power (part : Openings) : Nat → Openings → Openings
  | 0, before => before
  | n + 1, before => if before.isClosed then before else power part n (cross before part)

/-- Openings that are cut, if they are too many together. -/
def cutPair (os ps : List Opening) : List Opening × List Opening :=
  if os.length + ps.length ≤ limits.total then (os, ps)
  else
    let cut := fun (l : List Opening) => Opening.merge (l.map (Opening.take cutLength))
    (cut os, cut ps)

/-- The openings of one branch or another. -/
def union : Openings → Openings → Openings
  | some os, some ps =>
    let (os, ps) := cutPair os ps
    (within (os.length + ·) (some ps)).map fun ps => Opening.merge (os ++ ps)
  | _, _ => none

def ofText (text : List Char) : Openings :=
  some [Opening.take limits.bytes ⟨text.flatMap String.utf8EncodeChar, true⟩]

def ofSet (s : CharSet) : Openings :=
  if s.size ≤ limits.members then
    some (s.toList.map fun c => ⟨String.utf8EncodeChar c, true⟩)
  else none

def ofRepetition (min : Nat) (max : Option Nat) (greedy : Bool) (part : Openings) : Openings :=
  if min = 0 then
    let part := if max = some 1 then part else part.unfinished
    if greedy then union part (some [.blank]) else union (some [.blank]) part
  else
    let repeated := power part (Nat.min min limits.repeats) (some [.blank])
    if max = some min ∧ min ≤ limits.repeats then repeated else repeated.unfinished

mutual

def ofPattern : Pattern → Openings
  | .empty => some [.blank]
  | .literal text => ofText text
  | .set s _ => ofSet s
  | .look _ => some [.blank]
  | .repetition min max greedy p => ofRepetition min max greedy (ofPattern p)
  | .capture _ p => ofPattern p
  | .concat ps => ofConcat (some [.blank]) ps
  | .alternation ps => ofAlternation (some []) ps

def ofConcat (before : Openings) : List Pattern → Openings
  | [] => before
  | p :: ps => if before.isClosed then before else ofConcat (cross before (ofPattern p)) ps

def ofAlternation (before : Openings) : List Pattern → Openings
  | [] => before
  | p :: ps => if before.isNone then before else ofAlternation (union before (ofPattern p)) ps

end

/-! ## What to look for -/

/-- How long openings may stay if there are more than so many. -/
def shrinkings : List (Nat × Nat) := [(5, 10), (4, 10), (3, 64), (2, 64), (1, 10)]

def shrink : List (Nat × Nat) → List Opening → List Opening
  | [], os => os
  | (length, count) :: rest, os =>
    if os.length ≤ count then os
    else shrink rest (Opening.distinguish (os.map (Opening.take length)))

/-- Whether openings that were shrunk are worse to look for than they were before. -/
def isPoor (os : List Opening) : Bool :=
  os.any Opening.isCommon || decide (Opening.shortest os ≤ 2) || decide (64 < os.length)

/-- The length of a shared beginning that is rare enough to look for nothing else. -/
def sharedLength? (os : List Opening) : Option Nat :=
  let n := (Opening.shared os).length
  let isFast := isWhole (some os) && decide (os.length ≤ 16)
  if 4 < n ∨ (1 < n ∧ !isFast) then some n else none

/-- Whether all openings begin with the same few bytes, of which the first is rare. -/
def beginsRarely (os : List Opening) : Bool :=
  match Opening.shared os with
  | [] => false
  | b :: rest => decide (rest.length < 3) && decide (byteRank b < 200)

/-- The openings to look for. -/
def best : Openings → Openings
  | none => none
  | some os =>
    if hasBlank os then none
    else
      let distinct := Opening.distinguish os
      if 1 < os.length ∧ beginsRarely distinct then
        some (Opening.merge (distinct.map (Opening.take 1)))
      else
        let kept := match sharedLength? distinct with
          | some n => Opening.merge (distinct.map (Opening.take n))
          | none => distinct
        let shrunk := shrink shrinkings kept
        if isWhole (some kept) then some (if isPoor shrunk then kept else shrunk)
        else if shrunk.any Opening.isCommon then none
        else some shrunk

end Openings

namespace Pattern

def literal? : Pattern → Option (List Char)
  | .literal text => some text
  | _ => none

/-- The texts of a choice between literals only. -/
def literals? (branches : List Pattern) : Option (List (List Char)) :=
  if branches.length < 2 then none else branches.mapM literal?

/-- Whether the pattern is a choice of very many texts. -/
def isLongList : Pattern → Bool
  | .alternation ps => decide (3000 ≤ ps.length) && (literals? ps).isSome
  | _ => false

/-- Whether the pattern is only looked for as a choice between texts. -/
def isTextSearch (p : Pattern) : Bool :=
  p.groups == 0 && p.looks.isEmpty &&
    (match Openings.best (.ofPattern p) with
      | some os => !os.isEmpty && os.all Opening.whole
      | none => false) || p.isLongList

end Pattern
end Regex
end EnvelopeRules
