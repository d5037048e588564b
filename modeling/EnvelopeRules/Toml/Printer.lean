import EnvelopeRules.Toml.Value

/-!
# The text of a value

A string is written in the first of these forms that needs no escapes: between double quotes,
between single quotes, between three double or three single quotes.  If none will do, it is escaped.
-/

namespace EnvelopeRules
namespace Toml

/-! ## Strings -/

/-- A control character that cannot stand in a string by itself. -/
def needsCode (c : Char) : Bool :=
  c != '\t' && c != '\n' && (c.toNat < 0x20 || c.toNat == 0x7F)

/-- The length of the longest run of a character. -/
def longestRun (c : Char) (cs : List Char) : Nat :=
  (cs.foldl (fun (best, here) d => if d = c then (max best (here + 1), here + 1) else (best, 0))
    (0, 0)).1

inductive StringForm where
  | basic | literal | lines | literalLines
  deriving DecidableEq, Repr

def StringForm.of (cs : List Char) : StringForm :=
  let codes := cs.any needsCode
  let escapes := cs.contains '\\'
  let newline := cs.contains '\n'
  let doubles := longestRun '"' cs
  let singles := longestRun '\'' cs
  if !codes && !escapes && doubles == 0 && !newline then .basic
  else if !codes && singles == 0 && !newline then .literal
  else if !codes && !escapes && doubles ≤ 2 then .lines
  else if !codes && singles ≤ 2 then .literalLines
  else if newline then .lines
  else .basic

def upperHex (n : Nat) : List Char := (Nat.toDigits 16 n).map Char.toUpper

/-- A character that is not a quote, in a form with escapes. -/
def escapeChar (lines : Bool) (c : Char) : List Char :=
  match c with
  | '\x08' => "\\b".toList
  | '\t' => "\\t".toList
  | '\n' => if lines then ['\n'] else "\\n".toList
  | '\x0c' => "\\f".toList
  | '\r' => "\\r".toList
  | '\\' => "\\\\".toList
  | c =>
    if needsCode c then
      let digits := upperHex c.toNat
      "\\u".toList ++ List.replicate (4 - digits.length) '0' ++ digits
    else [c]

/-- Escapes a text; so many quotes in a row need no escape. -/
def escapeChars (lines : Bool) (allowed : Nat) : Nat → List Char → List Char
  | _, [] => []
  | run, c :: cs =>
    if c = '"' then
      if allowed ≤ run then '\\' :: '"' :: escapeChars lines allowed 0 cs
      else '"' :: escapeChars lines allowed (run + 1) cs
    else
      let piece := escapeChar lines c
      piece ++ escapeChars lines allowed 0 cs

def stringText (s : String) : List Char :=
  let cs := s.toList
  let opening := if cs.contains '\n' then ['\n'] else []
  match StringForm.of cs with
  | .basic => '"' :: escapeChars false 0 0 cs ++ ['"']
  | .literal => '\'' :: cs ++ ['\'']
  | .lines => "\"\"\"".toList ++ opening ++ escapeChars true 2 0 cs ++ "\"\"\"".toList
  | .literalLines => "'''".toList ++ opening ++ cs ++ "'''".toList

def isBareName (cs : List Char) : Bool :=
  !cs.isEmpty && cs.all fun c => c.isAlphanum || c == '_' || c == '-'

def nameText (s : String) : List Char :=
  let cs := s.toList
  let codes := cs.any fun c => needsCode c || c == '\n'
  if isBareName cs then cs
  else if !codes && !cs.contains '\\' && !cs.contains '"' then
    '"' :: escapeChars false 0 0 cs ++ ['"']
  else if !codes && !cs.contains '\'' then '\'' :: cs ++ ['\'']
  else '"' :: escapeChars false 0 0 cs ++ ['"']

/-! ## Values -/

/-- A float always shows a point or a name. -/
def floatText : Binary64 → List Char
  | .nan => "nan".toList
  | .infinite negative => if negative then "-inf".toList else "inf".toList
  | x =>
    let t := x.text.toList
    if t.contains '.' then t else t ++ ".0".toList

namespace Value

def isTable : Value → Bool
  | .table _ => true
  | _ => false

def holdsTable : Value → Bool
  | .array items => items.any isTable
  | _ => false

end Value

/-- The name under which a date or a time stands alone. -/
def datetimeName : String := "$__toml_private_datetime"

def commaSeparated (pieces : List (List Char)) : List Char :=
  (pieces.intersperse ", ".toList).flatten

def entryText (name : String) (value : List Char) : List Char :=
  nameText name ++ " = ".toList ++ value

def tableText (pieces : List (List Char)) : List Char :=
  if pieces.isEmpty then ['{', '}'] else '{' :: ' ' :: commaSeparated pieces ++ [' ', '}']

/-- Entries in the order they are shown: simple values, then arrays of tables, then tables. -/
def shownOrder {α : Type} (isArray isTable : α → Bool) (entries : List α) : List α :=
  entries.filter (fun e => !isArray e && !isTable e) ++ entries.filter isArray ++
    entries.filter isTable

mutual

def nestedText : Value → List Char
  | .text s => stringText s
  | .integer n => (Decimal.ofInt64 n).toList
  | .float x => floatText x
  | .boolean b => (if b then "true" else "false").toList
  | .datetime s => s.toList
  | .array items => '[' :: commaSeparated (nestedItems items) ++ [']']
  | .table entries =>
    tableText ((shownOrder (fun e => e.1.1) (fun e => e.1.2) (nestedEntries entries)).map Prod.snd)

def nestedItems : List Value → List (List Char)
  | [] => []
  | v :: rest => nestedText v :: nestedItems rest

/-- The texts of entries, each marked whether it is an array of tables or a table. -/
def nestedEntries : List (String × Value) → List ((Bool × Bool) × List Char)
  | [] => []
  | (name, v) :: rest =>
    ((v.holdsTable, v.isTable), entryText name (nestedText v)) :: nestedEntries rest

end

/-- The text of a value that stands alone. -/
def Value.shown : Value → String
  | .datetime s => String.ofList (tableText [entryText datetimeName (stringText s)])
  | v => String.ofList (nestedText v)

end Toml
end EnvelopeRules
