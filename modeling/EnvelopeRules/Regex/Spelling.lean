import EnvelopeRules.Text.CharSet

/-!
# How characters are spelled in bytes

The UTF-8 spellings of a set of characters are sequences of byte ranges.  Each sequence stands for
all spellings that take one byte from each of its ranges.
-/

namespace EnvelopeRules
namespace Regex
namespace Spelling

abbrev ByteRange := Nat × Nat

def anyContinuation : ByteRange := (0x80, 0xBF)

/-- The byte ranges that spell the numbers `lo` to `hi` with some continuation bytes, the first byte
raised by `lead`. -/
def ofNumbers (lead : Nat) : Nat → Nat → Nat → List (List ByteRange)
  | 0, lo, hi => [[(lead + lo, lead + hi)]]
  | k + 1, lo, hi =>
    let unit := Nat.pow 64 (k + 1)
    let a := lo / unit
    let b := hi / unit
    let tail := fun (n : Nat) (lo hi : Nat) =>
      (ofNumbers 0x80 k lo hi).map ((lead + n, lead + n) :: ·)
    if a = b then tail a (lo % unit) (hi % unit)
    else
      let low := if lo % unit = 0 then [] else tail a (lo % unit) (unit - 1)
      let high := if hi % unit = unit - 1 then [] else tail b 0 (hi % unit)
      let a := if lo % unit = 0 then a else a + 1
      let b := if hi % unit = unit - 1 then b + 1 else b
      let middle :=
        if a < b then [(lead + a, lead + (b - 1)) :: List.replicate (k + 1) anyContinuation] else []
      low ++ middle ++ high

/-- The part of a range between two bounds, spelled. -/
def within (lead k first last : Nat) (r : Nat × Nat) : List (List ByteRange) :=
  let lo := max r.1 first
  let hi := min r.2 last
  if lo ≤ hi then ofNumbers lead k lo hi else []

def ofRange (r : Nat × Nat) : List (List ByteRange) :=
  within 0 0 0 0x7F r ++ within 0xC0 1 0x80 0x7FF r ++
    within 0xE0 2 0x800 0xFFFF r ++ within 0xF0 3 0x10000 0x10FFFF r

def ofSet (s : CharSet) : List (List ByteRange) := s.ranges.flatMap ofRange

/-- The longest spelling of a character. -/
def maxLength : Nat := 4

/-- Puts together neighbours that begin with the same range. -/
def groupByHead : List (List ByteRange) → List (ByteRange × List (List ByteRange))
  | [] => []
  | [] :: rest => groupByHead rest
  | (r :: tail) :: rest =>
    match groupByHead rest with
    | (q, tails) :: groups => if r = q then (q, tail :: tails) :: groups
      else (r, [tail]) :: (q, tails) :: groups
    | [] => [(r, [tail])]

end Spelling
end Regex
end EnvelopeRules
