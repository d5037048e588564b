/-!
# Sets of characters

A set of characters is an ascending list of code point ranges that lie apart.  Surrogate code points
are no characters and are left out of every set that is built here.
-/

namespace EnvelopeRules

structure CharSet where
  ranges : List (Nat × Nat)
  deriving DecidableEq, Repr, Inhabited

namespace CharSet

def empty : CharSet := ⟨[]⟩

def isEmpty (s : CharSet) : Bool := s.ranges.isEmpty

/-- The part of a range that holds characters. -/
def dropSurrogates (r : Nat × Nat) : List (Nat × Nat) :=
  let below := (r.1, min r.2 0xD7FF)
  let above := (max r.1 0xE000, min r.2 0x10FFFF)
  (if below.1 ≤ below.2 then [below] else []) ++ (if above.1 ≤ above.2 then [above] else [])

/-- Joins ranges that touch, given in the order of their lower ends. -/
def join : List (Nat × Nat) → List (Nat × Nat)
  | [] => []
  | [r] => [r]
  | r :: q :: rest =>
    if q.1 ≤ r.2 + 1 then join ((r.1, max r.2 q.2) :: rest) else r :: join (q :: rest)
termination_by l => l.length

def ofRanges (rs : List (Nat × Nat)) : CharSet :=
  ⟨join ((rs.flatMap dropSurrogates).mergeSort (fun a b => decide (a.1 ≤ b.1)))⟩

def singleton (c : Char) : CharSet := ⟨[(c.toNat, c.toNat)]⟩

/-- Whether an ascending list of ranges covers a code point. -/
def covers (n : Nat) : List (Nat × Nat) → Bool
  | [] => false
  | r :: rest => if n < r.1 then false else if n ≤ r.2 then true else covers n rest

def contains (s : CharSet) (c : Char) : Bool := covers c.toNat s.ranges

def union (a b : CharSet) : CharSet := ofRanges (a.ranges ++ b.ranges)

/-- The gaps of an ascending list of ranges, from a code point on. -/
def gaps (start : Nat) : List (Nat × Nat) → List (Nat × Nat)
  | [] => if start ≤ 0x10FFFF then [(start, 0x10FFFF)] else []
  | r :: rest =>
    if start < r.1 then (start, r.1 - 1) :: gaps (r.2 + 1) rest else gaps (r.2 + 1) rest

def compl (s : CharSet) : CharSet := ⟨(gaps 0 s.ranges).flatMap dropSurrogates⟩

def all : CharSet := compl empty

def inter (a b : CharSet) : CharSet := compl (union (compl a) (compl b))

def diff (a b : CharSet) : CharSet := inter a (compl b)

def symmDiff (a b : CharSet) : CharSet := union (diff a b) (diff b a)

def unions (sets : List CharSet) : CharSet := ofRanges (sets.flatMap ranges)

/-- The number of characters in the set. -/
def size (s : CharSet) : Nat := s.ranges.foldr (fun r n => r.2 + 1 - r.1 + n) 0

/-- The characters of the set in ascending order. -/
def toList (s : CharSet) : List Char :=
  s.ranges.flatMap fun r => (List.range (r.2 + 1 - r.1)).map fun i => Char.ofNat (r.1 + i)

/-- The only member of a set of one character. -/
def single? (s : CharSet) : Option Char :=
  match s.ranges with
  | [r] => if r.1 = r.2 then some (Char.ofNat r.1) else none
  | _ => none

def isAscii (s : CharSet) : Bool := s.ranges.all fun r => decide (r.2 ≤ 0x7F)

/-- The value of a hexadecimal digit. -/
def hexDigit? (c : Char) : Option Nat :=
  if '0' ≤ c ∧ c ≤ '9' then some (c.toNat - '0'.toNat)
  else if 'a' ≤ c ∧ c ≤ 'f' then some (c.toNat - 'a'.toNat + 10)
  else if 'A' ≤ c ∧ c ≤ 'F' then some (c.toNat - 'A'.toNat + 10)
  else none

/-- The number that hexadecimal digits write; any other character counts as zero. -/
def ofHex (digits : List Char) : Nat :=
  digits.foldl (fun n c => 16 * n + (hexDigit? c).getD 0) 0

/-- A range written as in `41-5a` or, of one character, as in `aa`. -/
def rangeOfText (word : String) : Nat × Nat :=
  match (word.splitOn "-").map fun w => ofHex w.toList with
  | [lo, hi] => (lo, hi)
  | lo :: _ => (lo, lo)
  | [] => (1, 0)

/-- Ranges written in some lines, with blanks between them. -/
def ofLines (lines : List String) : CharSet :=
  ofRanges (lines.flatMap fun line => (line.splitOn " ").map rangeOfText)

def ofText (text : String) : CharSet := ofLines [text]

end CharSet
end EnvelopeRules
