/-!
# Decimal numbers of fixed width

A number is written with at least one digit.  A sign may stand before it, a minus only where the
numbers can be negative; leading zeros do not count.  A number that does not fit is refused.
-/

namespace EnvelopeRules
namespace Decimal

def digits? (cs : List Char) : Option Nat :=
  if !cs.isEmpty && cs.all Char.isDigit then some (Nat.ofDigitChars 10 cs 0) else none

def integer? : List Char → Option Int
  | '-' :: cs => (digits? cs).map fun n => -(n : Int)
  | '+' :: cs => (digits? cs).map Int.ofNat
  | cs => (digits? cs).map Int.ofNat

def natural? : List Char → Option Nat
  | '+' :: cs => digits? cs
  | cs => digits? cs

/-- An integer in the range of 64 bits with sign. -/
def fitInt64 (n : Int) : Option Int64 :=
  if Int64.minValue.toInt ≤ n ∧ n ≤ Int64.maxValue.toInt then some (Int64.ofInt n) else none

/-- A number in the range of 64 bits without sign. -/
def fitUInt64 (n : Nat) : Option UInt64 :=
  if n < UInt64.size then some (UInt64.ofNat n) else none

def int64? (text : String) : Option Int64 := (integer? text.toList).bind fitInt64

def uint64? (text : String) : Option UInt64 := (natural? text.toList).bind fitUInt64

def ofNat (n : Nat) : String := String.ofList (Nat.toDigits 10 n)

def ofInt (n : Int) : String :=
  match n with
  | .ofNat n => ofNat n
  | .negSucc n => "-" ++ ofNat (n + 1)

def ofInt64 (n : Int64) : String := ofInt n.toInt

def ofUInt64 (n : UInt64) : String := ofNat n.toNat

end Decimal
end EnvelopeRules
