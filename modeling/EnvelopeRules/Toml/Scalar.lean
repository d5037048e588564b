import EnvelopeRules.Toml.Value
import EnvelopeRules.Text.CharSet

/-!
# Strings, numbers and dates of a document

Each reader takes a beginning of the text and gives what it read with the rest, or nothing if the
text does not begin that way.
-/

namespace EnvelopeRules
namespace Toml

abbrev Reader (α : Type) := List Char → Option (α × List Char)

def isBlank (c : Char) : Bool := c == ' ' || c == '\t'

def skipBlanks (cs : List Char) : List Char := cs.dropWhile isBlank

/-- A line end: a line feed, alone or after a carriage return. -/
def lineEnd? : List Char → Option (List Char)
  | '\n' :: rest => some rest
  | '\r' :: '\n' :: rest => some rest
  | _ => none

/-- Characters that may stand in a text or a comment: all but controls other than the tab. -/
def isTextChar (c : Char) : Bool := c == '\t' || (0x20 ≤ c.toNat && c.toNat != 0x7F)

/-- What follows a comment that may stand at the front. -/
def skipComment : List Char → List Char
  | '#' :: rest => rest.dropWhile isTextChar
  | cs => cs

/-! ## Strings -/

def hexNumber? (digits : List Char) : Option Nat :=
  if digits.all fun c => (CharSet.hexDigit? c).isSome then some (CharSet.ofHex digits) else none

/-- A character by its number of a fixed count of digits. -/
def numbered (count : Nat) : Reader Char := fun cs =>
  let digits := cs.take count
  if digits.length = count then
    match hexNumber? digits with
    | some n => if n.isValidChar then some (Char.ofNat n, cs.drop count) else none
    | none => none
  else none

/-- A character written by a backslash, which is left out. -/
def escape : Reader Char
  | 'b' :: rest => some ('\x08', rest)
  | 't' :: rest => some ('\t', rest)
  | 'n' :: rest => some ('\n', rest)
  | 'f' :: rest => some ('\x0c', rest)
  | 'r' :: rest => some ('\r', rest)
  | '"' :: rest => some ('"', rest)
  | '\\' :: rest => some ('\\', rest)
  | 'u' :: rest => numbered 4 rest
  | 'U' :: rest => numbered 8 rest
  | _ => none

/-- The text up to a double quote. -/
def basicText : List Char → Option (List Char × List Char)
  | [] => none
  | '"' :: rest => some ([], rest)
  | '\\' :: code =>
    match escape code with
    | some (c, rest) =>
      if _h : rest.length < code.length then (basicText rest).map fun r => (c :: r.1, r.2)
      else none
    | none => none
  | c :: rest => if isTextChar c then (basicText rest).map fun r => (c :: r.1, r.2) else none
termination_by cs => cs.length

/-- The text up to a single quote. -/
def literalText : Reader (List Char)
  | [] => none
  | '\'' :: rest => some ([], rest)
  | c :: rest => if isTextChar c then (literalText rest).map fun r => (c :: r.1, r.2) else none

/-- At a quote: the quotes that belong to the text, and the rest if the text ends here. -/
def quoteRun (quote : Char) (cs : List Char) : List Char × List Char × Bool :=
  let run := cs.takeWhile (· == quote)
  if run.length < 3 then (run, cs.drop run.length, false)
  else
    let inside := min (run.length - 3) 2
    (run.take inside, cs.drop (inside + 3), true)

def skipLines : List Char → List Char
  | '\r' :: '\n' :: rest => skipLines rest
  | c :: rest => if isBlank c ∨ c = '\n' then skipLines rest else c :: rest
  | [] => []

/-- What follows a backslash at the end of a line: blanks and line ends after it do not count. -/
def continued? (cs : List Char) : Option (List Char) := (lineEnd? (skipBlanks cs)).map skipLines

/-- A text of several lines up to three quotes. -/
def multilineText (quote : Char) (escapes : Bool) (cs : List Char) :
    Option (List Char × List Char) :=
  let again := fun (piece rest : List Char) =>
    if _h : rest.length < cs.length then
      (multilineText quote escapes rest).map fun r => (piece ++ r.1, r.2)
    else none
  match cs with
  | [] => none
  | c :: rest =>
    if c = quote then
      match quoteRun quote cs with
      | (inside, rest, true) => some (inside, rest)
      | (inside, rest, false) => again inside rest
    else if c = '\\' ∧ escapes then
      match escape rest with
      | some (d, rest) => again [d] rest
      | none => match continued? rest with
        | some rest => again [] rest
        | none => none
    else match lineEnd? cs with
      | some rest => again ['\n'] rest
      | none => if isTextChar c then again [c] rest else none
termination_by cs.length

/-- A line end right after the opening quotes does not count. -/
def skipFirstLineEnd (cs : List Char) : List Char := (lineEnd? cs).getD cs

def string : Reader String
  | '"' :: '"' :: '"' :: rest =>
    (multilineText '"' true (skipFirstLineEnd rest)).map fun r => (String.ofList r.1, r.2)
  | '"' :: rest => (basicText rest).map fun r => (String.ofList r.1, r.2)
  | '\'' :: '\'' :: '\'' :: rest =>
    (multilineText '\'' false (skipFirstLineEnd rest)).map fun r => (String.ofList r.1, r.2)
  | '\'' :: rest => (literalText rest).map fun r => (String.ofList r.1, r.2)
  | _ => none

/-! ## Numbers -/

/-- Digits of a kind, between which single underscores may stand. -/
def digitRun (kind : Char → Bool) : Reader (List Char)
  | [] => none
  | c :: rest =>
    if kind c then
      match rest with
      | '_' :: more => (digitRun kind more).map fun r => (c :: r.1, r.2)
      | rest =>
        match digitRun kind rest with
        | some r => some (c :: r.1, r.2)
        | none => if rest.head?.any kind then none else some ([c], rest)
    else none

def sign : List Char → Bool × List Char
  | '-' :: rest => (true, rest)
  | '+' :: rest => (false, rest)
  | cs => (false, cs)

/-- The digits of a decimal integer: none stand after a leading zero. -/
def decimalDigits : Reader (List Char)
  | '0' :: rest => some (['0'], rest)
  | cs => digitRun Char.isDigit cs

def exponentPart : Reader Int
  | c :: rest =>
    if c = 'e' ∨ c = 'E' then do
      let (negative, rest) := sign rest
      let (digits, rest) ← digitRun Char.isDigit rest
      let n : Int := Nat.ofDigitChars 10 digits 0
      return (if negative then -n else n, rest)
    else none
  | [] => none

def fractionPart : Reader (List Char)
  | '.' :: rest => digitRun Char.isDigit rest
  | _ => none

/-- A number with a fraction or an exponent.  It must not be too large, but may be too far below
zero. -/
def decimalFloat : Reader Binary64 := fun cs => do
  let (negative, rest) := sign cs
  let (whole, rest) ← decimalDigits rest
  let (fraction, rest) ← match fractionPart rest with
    | some r => some r
    | none => if rest.head?.any (fun c => c == 'e' || c == 'E') then some ([], rest) else none
  let (exponent, rest) ←
    if rest.head?.any (fun c => c == 'e' || c == 'E') then exponentPart rest else some (0, rest)
  let x := Binary64.ofDecimal negative (Nat.ofDigitChars 10 (whole ++ fraction) 0)
    (exponent - fraction.length)
  if x = .infinite false then none else some (x, rest)

def namedFloat : Reader Binary64 := fun cs =>
  match sign cs with
  | (negative, 'i' :: 'n' :: 'f' :: rest) => some (.infinite negative, rest)
  | (_, 'n' :: 'a' :: 'n' :: rest) => some (.nan, rest)
  | _ => none

def isOctalDigit (c : Char) : Bool := '0' ≤ c && c ≤ '7'

def isBinaryDigit (c : Char) : Bool := c == '0' || c == '1'

def isHexDigit (c : Char) : Bool := (CharSet.hexDigit? c).isSome

def basedInteger (base : Nat) (kind : Char → Bool) : Reader Int64 := fun cs => do
  let (digits, rest) ← digitRun kind cs
  let n := digits.foldl (fun n c => base * n + (CharSet.hexDigit? c).getD 0) 0
  return (← Decimal.fitInt64 n, rest)

def integer : Reader Int64
  | '0' :: 'x' :: rest => basedInteger 16 isHexDigit rest
  | '0' :: 'o' :: rest => basedInteger 8 isOctalDigit rest
  | '0' :: 'b' :: rest => basedInteger 2 isBinaryDigit rest
  | cs => do
    let (negative, rest) := sign cs
    let (digits, rest) ← decimalDigits rest
    let n : Int := Nat.ofDigitChars 10 digits 0
    return (← Decimal.fitInt64 (if negative then -n else n), rest)

/-! ## Dates and times -/

/-- A number of a fixed count of digits between two bounds. -/
def counted (count low high : Nat) : Reader Nat := fun cs =>
  let digits := cs.take count
  let n := Nat.ofDigitChars 10 digits 0
  if digits.length = count ∧ digits.all Char.isDigit ∧ low ≤ n ∧ n ≤ high
  then some (n, cs.drop count) else none

def mark (c : Char) : Reader Unit
  | d :: rest => if c = d then some ((), rest) else none
  | [] => none

def isLeapYear (year : Nat) : Bool := year % 4 == 0 && (year % 100 != 0 || year % 400 == 0)

def daysOfMonth (year month : Nat) : Nat :=
  if month = 2 then (if isLeapYear year then 29 else 28)
  else if month = 4 ∨ month = 6 ∨ month = 9 ∨ month = 11 then 30 else 31

/-- A number with zeros before it up to a width. -/
def padded (width n : Nat) : List Char :=
  let digits := Nat.toDigits 10 n
  List.replicate (width - digits.length) '0' ++ digits

def date : Reader (List Char) := fun cs => do
  let (year, rest) ← counted 4 0 9999 cs
  let (_, rest) ← mark '-' rest
  let (month, rest) ← counted 2 1 12 rest
  let (_, rest) ← mark '-' rest
  let (day, rest) ← counted 2 1 (daysOfMonth year month) rest
  return (padded 4 year ++ '-' :: padded 2 month ++ '-' :: padded 2 day, rest)

/-- The digits of a second after the point, nine at most and without zeros at the end. -/
def secondFraction : Reader (List Char)
  | '.' :: rest =>
    let digits := rest.takeWhile Char.isDigit
    if digits.isEmpty then none
    else
      let kept := ((digits.take 9).reverse.dropWhile (· == '0')).reverse
      some (if kept.isEmpty then [] else '.' :: kept, rest.drop digits.length)
  | cs => some ([], cs)

def time : Reader (List Char) := fun cs => do
  let (hour, rest) ← counted 2 0 23 cs
  let (_, rest) ← mark ':' rest
  let (minute, rest) ← counted 2 0 59 rest
  let (_, rest) ← mark ':' rest
  let (second, rest) ← counted 2 0 60 rest
  let (fraction, rest) ← secondFraction rest
  return (padded 2 hour ++ ':' :: padded 2 minute ++ ':' :: padded 2 second ++ fraction, rest)

/-- The distance to universal time, if one is written. -/
def offset : Reader (List Char)
  | 'Z' :: rest => some (['Z'], rest)
  | 'z' :: rest => some (['Z'], rest)
  | c :: cs =>
    if c = '+' ∨ c = '-' then do
      let (hour, rest) ← counted 2 0 23 cs
      let (_, rest) ← mark ':' rest
      let (minute, rest) ← counted 2 0 59 rest
      let c := if hour = 0 ∧ minute = 0 then '+' else c
      return (c :: padded 2 hour ++ ':' :: padded 2 minute, rest)
    else some ([], c :: cs)
  | [] => some ([], [])

/-- A time after a date. -/
def timeOfDate : Reader (List Char)
  | c :: cs =>
    if c = 'T' ∨ c = 't' ∨ c = ' ' then do
      let (clock, rest) ← time cs
      let (zone, rest) ← offset rest
      return ('T' :: clock ++ zone, rest)
    else none
  | [] => none

def datetime : Reader String := fun cs =>
  match date cs with
  | some (day, rest) =>
    match timeOfDate rest with
    | some (clock, rest) => some (String.ofList (day ++ clock), rest)
    | none => some (String.ofList day, rest)
  | none => (time cs).map fun r => (String.ofList r.1, r.2)

/-! ## Scalars -/

def boolean : Reader Bool
  | 't' :: 'r' :: 'u' :: 'e' :: rest => some (true, rest)
  | 'f' :: 'a' :: 'l' :: 's' :: 'e' :: rest => some (false, rest)
  | _ => none

/-- A number or a date: a date first, for it begins like a number. -/
def quantity : Reader Value := fun cs =>
  match datetime cs with
  | some (s, rest) => some (.datetime s, rest)
  | none => match decimalFloat cs with
    | some (x, rest) => some (.float x, rest)
    | none => match namedFloat cs with
      | some (x, rest) => some (.float x, rest)
      | none => (integer cs).map fun r => (.integer r.1, r.2)

def scalar : Reader Value := fun cs =>
  match string cs with
  | some (s, rest) => some (.text s, rest)
  | none => match boolean cs with
    | some (b, rest) => some (.boolean b, rest)
    | none => quantity cs

end Toml
end EnvelopeRules
