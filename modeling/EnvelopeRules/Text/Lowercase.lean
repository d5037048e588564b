import EnvelopeRules.Text.CharData
import EnvelopeRules.Text.CharSet

/-!
# Lower case

Each character is mapped by itself, but for the capital sigma: at the end of a word it becomes the
final form.  A word ends where no cased character follows and one comes before, with characters that
case ignores passed over.
-/

namespace EnvelopeRules
namespace Lowercase

/-- Capital letters with their small letters. -/
def pairs : List (Nat × Nat) :=
  CharData.lowercasePairs.flatMap fun line => (line.splitOn " ").filterMap fun w =>
    match (w.splitOn "=").map fun v => CharSet.ofHex v.toList with
    | [a, b] => some (a, b)
    | _ => none

def cased : CharSet := CharSet.ofLines CharData.casedRanges

def ignorable : CharSet := CharSet.ofLines CharData.caseIgnorableRanges

def mapChar (c : Char) : List Char :=
  if c.toNat < 0x80 then [c.toLower]
  else if c = 'İ' then ['i', Char.ofNat 0x307]
  else match pairs.find? fun p => p.1 == c.toNat with
    | some p => [Char.ofNat p.2]
    | none => [c]

/-- Whether the first character that case does not ignore is cased. -/
def meetsCased (cs : List Char) : Bool :=
  (cs.find? fun c => !ignorable.contains c).any cased.contains

/-- Maps a text whose part before it is given backward. -/
def mapChars (before : List Char) : List Char → List Char
  | [] => []
  | c :: rest =>
    let small :=
      if c = 'Σ' then [if meetsCased before && !meetsCased rest then 'ς' else 'σ'] else mapChar c
    small ++ mapChars (c :: before) rest

end Lowercase

def lowercase (text : String) : String := String.ofList (Lowercase.mapChars [] text.toList)

end EnvelopeRules
