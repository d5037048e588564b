import EnvelopeRules.Text.Decimal

/-!
# Binary floating point of 64 bits

A finite number is `mantissa * 2 ^ exponent` with a mantissa of at most 53 bits.  A decimal number
is rounded to the nearest one, a tie to the even mantissa.  The text of a number has the fewest
digits that read back, and of those the nearest ones; it never uses an exponent.
-/

namespace EnvelopeRules

inductive Binary64 where
  | nan
  | infinite (negative : Bool)
  | finite (negative : Bool) (mantissa : Nat) (exponent : Int)
  deriving DecidableEq, Repr, Inhabited

namespace Binary64

def mantissaBits : Nat := 53
def minExponent : Int := -1074
def maxExponent : Int := 971

def zero (negative : Bool) : Binary64 := .finite negative 0 minExponent

/-- The quotient rounded to the nearest number, a tie to the even one. -/
def roundQuotient (num den : Nat) : Nat :=
  let q := num / den
  let r := num % den
  if 2 * r < den then q else if den < 2 * r then q + 1 else q + q % 2

/-- The numerator and denominator of a fraction divided by a power of two. -/
def scaleBinary (num den : Nat) (exponent : Int) : Nat × Nat :=
  match exponent with
  | .ofNat n => (num, den * Nat.pow 2 n)
  | .negSucc n => (num * Nat.pow 2 (n + 1), den)

/-- The number nearest to a positive fraction. -/
def ofFraction (negative : Bool) (num den : Nat) : Binary64 :=
  let guess : Int := (num.log2 : Int) - den.log2 - mantissaBits
  let below := fun (e : Int) =>
    let s := scaleBinary num den e
    decide (s.1 < Nat.pow 2 mantissaBits * s.2)
  let exponent := max minExponent (if below guess then guess else guess + 1)
  let s := scaleBinary num den exponent
  let mantissa := roundQuotient s.1 s.2
  let (mantissa, exponent) :=
    if mantissa = Nat.pow 2 mantissaBits then (Nat.pow 2 (mantissaBits - 1), exponent + 1)
    else (mantissa, exponent)
  if maxExponent < exponent then .infinite negative else .finite negative mantissa exponent

/-- The number nearest to `digits * 10 ^ exponent`. -/
def ofDecimal (negative : Bool) (digits : Nat) (exponent : Int) : Binary64 :=
  let magnitude : Int := (Nat.toDigits 10 digits).length + exponent
  if digits = 0 then zero negative
  else if 400 < magnitude then .infinite negative
  else if magnitude < -400 then zero negative
  else match exponent with
    | .ofNat n => ofFraction negative (digits * Nat.pow 10 n) 1
    | .negSucc n => ofFraction negative digits (Nat.pow 10 (n + 1))

/-- The exact value of a finite number as a fraction. -/
def fraction (mantissa : Nat) (exponent : Int) : Nat × Nat :=
  match exponent with
  | .ofNat n => (mantissa * Nat.pow 2 n, 1)
  | .negSucc n => (mantissa, Nat.pow 2 (n + 1))

/-- The number of decimal digits before the point of a dyadic fraction; it is not positive if zeros
follow the point. -/
def decimalMagnitude (num den : Nat) : Int :=
  if den ≤ num then (Nat.toDigits 10 (num / den)).length
  else 1 - (Nat.toDigits 10 (den / num)).length

/-- The nearest decimal number with some digits that reads back. -/
def readsBackWith? (num den : Nat) (mantissa : Nat) (exponent magnitude : Int) (count : Nat) :
    Option (Nat × Int) :=
  let unit : Int := magnitude - count
  let (n, d) := match unit with
    | .ofNat k => (num, den * Nat.pow 10 k)
    | .negSucc k => (num * Nat.pow 10 (k + 1), den)
  let low := n / d
  let nearerLow := decide (2 * (n % d) ≤ d)
  let reads := fun digits => ofDecimal false digits unit == .finite false mantissa exponent
  let order := if nearerLow then [low, low + 1] else [low + 1, low]
  (order.find? reads).map fun digits => (digits, unit)

/-- The shortest digits of a positive number, with the power of ten that they count. -/
def shortest (mantissa : Nat) (exponent : Int) : Nat × Int :=
  let f := fraction mantissa exponent
  let magnitude := decimalMagnitude f.1 f.2
  ((List.range 17).findSome? fun i =>
    readsBackWith? f.1 f.2 mantissa exponent magnitude (i + 1)).getD (0, 0)

/-- Digits times a power of ten, without an exponent. -/
def positional (digits : Nat) (unit : Int) : List Char :=
  let ds := Nat.toDigits 10 digits
  match unit with
  | .ofNat n => ds ++ List.replicate n '0'
  | .negSucc n =>
    let places := n + 1
    let padded := List.replicate (places + 1 - ds.length) '0' ++ ds
    let whole := padded.take (padded.length - places)
    let part := padded.drop (padded.length - places)
    let part := (part.reverse.dropWhile (· == '0')).reverse
    if part.isEmpty then whole else whole ++ '.' :: part

def magnitudeText (mantissa : Nat) (exponent : Int) : List Char :=
  if mantissa = 0 then ['0']
  else
    let s := shortest mantissa exponent
    positional s.1 s.2

def text : Binary64 → String
  | .nan => "NaN"
  | .infinite negative => if negative then "-inf" else "inf"
  | .finite negative mantissa exponent =>
    String.ofList ((if negative then ['-'] else []) ++ magnitudeText mantissa exponent)

/-- The whole number nearest to a positive one, a tie away from zero. -/
def roundHalfUp (mantissa : Nat) (exponent : Int) : Nat :=
  let f := fraction mantissa exponent
  (2 * f.1 + f.2) / (2 * f.2)

/-- The nearest number of 64 bits without sign; what is below zero or no number counts as zero. -/
def toUInt64Nat : Binary64 → Nat
  | .nan => 0
  | .infinite negative => if negative then 0 else UInt64.size - 1
  | .finite negative mantissa exponent =>
    if negative then 0 else min (roundHalfUp mantissa exponent) (UInt64.size - 1)

def isZero : Binary64 → Bool
  | .finite _ mantissa _ => mantissa == 0
  | _ => false

/-! ## Reading -/

/-- The digits of a number with a point anywhere, and how many of them stand after the point. -/
def pointDigits? (cs : List Char) : Option (List Char × Nat) :=
  let whole := cs.takeWhile Char.isDigit
  let places := match cs.drop whole.length with
    | [] => some []
    | '.' :: places => some places
    | _ => none
  match places with
  | none => none
  | some places =>
    if places.all Char.isDigit && !(whole.isEmpty && places.isEmpty)
    then some (whole ++ places, places.length) else none

def signed (cs : List Char) : Bool × List Char :=
  match cs with
  | '-' :: rest => (true, rest)
  | '+' :: rest => (false, rest)
  | rest => (false, rest)

def isExponentMark (c : Char) : Bool := c == 'e' || c == 'E'

def exponent? (cs : List Char) : Option Int :=
  match cs with
  | [] => some 0
  | _ :: rest =>
    let (negative, digits) := signed rest
    (Decimal.digits? digits).map fun n => if negative then -n else n

/-- The number that a text writes, in decimal digits or by name in any case. -/
def parse? (text : String) : Option Binary64 :=
  let (negative, rest) := signed text.toList
  let name := String.ofList (rest.map Char.toLower)
  if name = "nan" then some .nan
  else if name = "inf" ∨ name = "infinity" then some (.infinite negative)
  else do
    let mantissa := rest.takeWhile fun c => !isExponentMark c
    let (digits, places) ← pointDigits? mantissa
    let exponent ← exponent? (rest.drop mantissa.length)
    return ofDecimal negative (Nat.ofDigitChars 10 digits 0) (exponent - places)

end Binary64
end EnvelopeRules
