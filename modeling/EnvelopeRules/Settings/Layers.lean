import EnvelopeRules.Settings.OfTable

/-!
# Settings in layers

A file gives settings and the environment overrides them.  Tables are merged name by name, in lower
case; any other value takes the place of what was there.
-/

namespace EnvelopeRules
namespace Settings

abbrev Layer := List (String × Toml.Value)

/-- The entries of a value that is a table. -/
def entriesOf : Option Toml.Value → Layer
  | some (.table entries) => entries
  | _ => []

/-- Whether a table would replace a value only to hold nothing. -/
def keepsValue (existing : Option Toml.Value) (incoming : Layer) : Bool :=
  incoming.isEmpty && existing.isSome

mutual

/-- Sets a name to a value; a table is merged with what is there. -/
def setName (base : Layer) (name : String) (v : Toml.Value) : Layer :=
  let name := lowercase name
  match v with
  | .table incoming =>
    if keepsValue (Table.lookup name base) incoming then base
    else Table.place name (.table (setAll (entriesOf (Table.lookup name base)) incoming)) base
  | v => Table.place name v base
termination_by structural v

def setAll (base : Layer) (incoming : List (String × Toml.Value)) : Layer :=
  match incoming with
  | [] => base
  | (name, v) :: rest => setAll (setName base name v) rest
termination_by structural incoming

end

/-- Sets the name at the end of a path; what stands in the way becomes a table. -/
def setPath (v : Toml.Value) : List String → Layer → Layer
  | [], base => base
  | [name], base => setName base name v
  | name :: path, base =>
    let name := lowercase name
    Table.place name (.table (setPath v path (entriesOf (Table.lookup name base)))) base

def isNameChar (c : Char) : Bool := c.isAlphanum || c == '_' || c == '-'

def isPathPart (part : String) : Bool := !part.isEmpty && part.toList.all isNameChar

/-- The parts of a name with points; a name that has other marks is one part. -/
def pathOf (name : String) : List String :=
  let parts := name.splitOn "."
  if parts.all isPathPart then parts else [name]

def setEntry (base : Layer) (e : String × Toml.Value) : Layer := setPath e.2 (pathOf e.1) base

/-- The variables that are settings begin so; each further pair of underscores goes one level
down. -/
def variablePrefix : String := "mailrule__"

/-- The value that the text of a variable stands for. -/
def variableValue (text : String) : Toml.Value :=
  if lowercase text = "true" then .boolean true
  else if lowercase text = "false" then .boolean false
  else match Decimal.int64? text with
    | some n => .integer n
    | none => match Binary64.parse? text with
      | some x => .float x
      | none => .text text

/-- The setting that a variable makes, if it is one. -/
def settingOf? (v : String × String) : Option (String × Toml.Value) :=
  let name := (lowercase v.1).toList
  if variablePrefix.toList.isPrefixOf name then
    let rest := String.ofList (name.drop variablePrefix.length)
    some (String.intercalate "." (rest.splitOn "__"), variableValue v.2)
  else none

/-- The entries of a settings file, of which there may be none. -/
def fileEntries? : Option (Except ReadFailure String) → Option Layer
  | none => some []
  | some (.ok text) => (Toml.parse? text).map Table.entries
  | some (.error _) => none

/-- Settings from a file, if there is one, and the variables of the environment. -/
def load (file : Option (Except ReadFailure String)) (environment : List (String × String)) :
    Except SettingsError Settings :=
  match fileEntries? file with
  | none => .error .malformed
  | some entries =>
    let layers := (entries ++ environment.filterMap settingOf?).foldl setEntry []
    match ofEntries? .lenient layers with
    | some s => .ok s
    | none => .error .malformed

end Settings
end EnvelopeRules
