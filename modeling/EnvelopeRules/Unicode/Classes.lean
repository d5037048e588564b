import EnvelopeRules.Text.CharSet
import EnvelopeRules.Unicode.Category
import EnvelopeRules.Unicode.Script
import EnvelopeRules.Unicode.Property
import EnvelopeRules.Unicode.Age
import EnvelopeRules.Unicode.Segmentation
import EnvelopeRules.Unicode.Folding

/-!
# Classes of characters by name

Names are compared loosely: case, blanks, underscores, hyphens, a leading `is` and all that is not
ASCII do not count.
-/

namespace EnvelopeRules
namespace Unicode

def isLooseIgnored (c : Char) : Bool := c == ' ' || c == '_' || c == '-' || 0x7F < c.toNat

/-- A name without what does not count.  `isc` keeps its `is`, for `c` alone is another name. -/
def looseName (name : List Char) : String :=
  let plain := fun (cs : List Char) => (cs.filter fun c => !isLooseIgnored c).map Char.toLower
  match name with
  | i :: s :: rest =>
    if i.toLower = 'i' ∧ s.toLower = 's' then
      if plain rest = ['c'] then "isc" else String.ofList (plain rest)
    else String.ofList (plain name)
  | _ => String.ofList (plain name)

/-- The class listed under a loose name. -/
def find (table : List (List String × List String)) (name : String) : Option CharSet :=
  (table.find? fun entry => entry.1.contains name).map fun entry => CharSet.ofLines entry.2

def findAll (table : List (List String × List String)) (names : List String) : CharSet :=
  CharSet.unions (names.filterMap (find table))

def category? (name : String) : Option CharSet :=
  if name = "any" then some CharSet.all
  else if name = "ascii" then some (CharSet.ofRanges [(0, 0x7F)])
  else if name = "assigned" then (find categories "cn").map CharSet.compl
  else match find categories name with
    | some s => some s
    | none => (categoryGroups.find? fun g => g.1.contains name).map fun g => findAll categories g.2

def script? (name : String) : Option CharSet := find scripts name

def scriptExtension? (name : String) : Option CharSet :=
  match find scriptExtensions name with
  | some s => some s
  | none => find scripts name

/-- The characters assigned by a version or an earlier one. -/
def age? (name : String) : Option CharSet :=
  match ages.findIdx? fun entry => entry.1.contains name with
  | some i => some (CharSet.unions ((ages.take (i + 1)).map fun entry => CharSet.ofLines entry.2))
  | none => none

/-- A class asked for by one name: a yes-or-no property, a category or a script.  Three short names
stand for categories and scripts only. -/
def named? (written : List Char) : Option CharSet :=
  let name := looseName written
  let property := if name = "cf" ∨ name = "sc" ∨ name = "lc" then none else find properties name
  match property with
  | some s => some s
  | none => match category? name with
    | some s => some s
    | none => script? name

/-- A class asked for by the value of a property. -/
def valued? (property value : List Char) : Option CharSet :=
  let name := looseName value
  match looseName property with
  | "gc" | "generalcategory" => category? name
  | "sc" | "script" => script? name
  | "scx" | "scriptextensions" => scriptExtension? name
  | "age" => age? name
  | "gcb" | "graphemeclusterbreak" => find graphemeBreaks name
  | "wb" | "wordbreak" => find wordBreaks name
  | "sb" | "sentencebreak" => find sentenceBreaks name
  | _ => none

def decimalDigit : CharSet := findAll categories ["nd"]
def whiteSpace : CharSet := findAll properties ["whitespace"]

/-- Letters, marks, decimal digits, connectors and joiners: the characters words are made of. -/
def word : CharSet :=
  CharSet.unions [findAll properties ["alphabetic"],
    findAll categories ["mn", "mc", "me", "nd", "pc"], findAll properties ["joincontrol"]]

/-- The groups of characters that differ only by case. -/
def foldingGroups : List (List Nat) :=
  foldings.flatMap fun line => (line.splitOn " ").map fun g =>
    (g.splitOn "=").map fun w => CharSet.ofHex w.toList

/-- The set with every character that differs from a member only by case. -/
def closeUnderCase (s : CharSet) : CharSet :=
  let groups := foldingGroups.filter fun g => g.any fun n => CharSet.covers n s.ranges
  CharSet.ofRanges (s.ranges ++ groups.flatten.map fun n => (n, n))

/-- Whether some other character differs from this one only by case. -/
def hasCase (c : Char) : Bool := foldingGroups.any fun g => g.contains c.toNat

end Unicode
end EnvelopeRules
