import EnvelopeRules.Settings.Basic

/-!
# Settings from tables

Each part of the settings is a table, or an array of its values in order.  What is left out has its
default, and unknown names do not count.  What kinds of values will do is told by a conversion.
-/

namespace EnvelopeRules

/-- Which values count as texts, numbers and flags. -/
structure Conversion where
  text : Toml.Value → Option String
  number : Toml.Value → Option Nat
  flag : Toml.Value → Option Bool

namespace Conversion

/-- Values count as what they are. -/
def strict : Conversion where
  text := Toml.Value.text?
  number
    | .integer n => if 0 ≤ n then some n.toNatClampNeg else none
    | _ => none
  flag
    | .boolean b => some b
    | _ => none

def yesWords : List String := ["true", "on", "yes"]
def noWords : List String := ["false", "off", "no"]

/-- Simple values count as texts, and words for yes and no as numbers and flags. -/
def lenient : Conversion where
  text
    | .text s => some s
    | .datetime s => some s
    | .boolean b => some (if b then "true" else "false")
    | .integer n => some (Decimal.ofInt64 n)
    | .float x => some x.text
    | _ => none
  number
    | .integer n => if 0 ≤ n then some n.toNatClampNeg else none
    | .float x => some x.toUInt64Nat
    | .boolean b => some (if b then 1 else 0)
    | .text s =>
      if yesWords.contains (lowercase s) then some 1
      else if noWords.contains (lowercase s) then some 0
      else (Decimal.uint64? s).map UInt64.toNat
    | _ => none
  flag
    | .boolean b => some b
    | .integer n => some (n != 0)
    | .float x => some !x.isZero
    | .text s =>
      if ("1" :: yesWords).contains (lowercase s) then some true
      else if ("0" :: noWords).contains (lowercase s) then some false
      else none
    | _ => none

end Conversion

namespace Settings

/-- The value of a part under a name, or at a position if the part is an array. -/
def member (part : Toml.Value) (name : String) (position : Nat) : Option (Option Toml.Value) :=
  match part with
  | .table entries => some (Table.lookup name entries)
  | .array items => some items[position]?
  | _ => none

/-- A value that may be left out. -/
def orDefault {α : Type} (convert : Toml.Value → Option α) (default : α) :
    Option Toml.Value → Option α
  | none => some default
  | some v => convert v

def readLogging (c : Conversion) (part : Toml.Value) : Option LogSettings := do
  let d := default.logging
  return ⟨← orDefault c.text d.level (← member part "level" 0),
    ← orDefault c.text d.format (← member part "format" 1)⟩

def readEngine (c : Conversion) (part : Toml.Value) : Option EngineSettings := do
  let d := default.engine
  return ⟨← orDefault c.text d.rulesPath (← member part "rules_path" 0),
    ← orDefault c.number d.timeout (← member part "lookup_timeout_ms" 1),
    ← orDefault c.number d.sizeLimit (← member part "regex_size_limit" 2),
    ← orDefault c.flag d.skipInvalid (← member part "skip_invalid" 3),
    ← orDefault c.number d.cacheEntries (← member part "cache_entries" 4),
    ← orDefault c.number d.memberLife (← member part "cache_ttl_positive_ms" 5),
    ← orDefault c.number d.missLife (← member part "cache_ttl_negative_ms" 6)⟩

def ofEntries? (c : Conversion) (entries : List (String × Toml.Value)) : Option Settings := do
  return ⟨← orDefault (readLogging c) default.logging (Table.lookup "logging" entries),
    ← orDefault (readEngine c) default.engine (Table.lookup "engine" entries)⟩

/-- A date or a time in place of a part is a table without known names. -/
def datetimeAsTable : Toml.Value → Toml.Value
  | .datetime _ => .table []
  | v => v

/-- Settings from the text of one file. -/
def parse (text : String) : Except SettingsError Settings :=
  match Toml.parse? text with
  | none => .error .malformed
  | some t =>
    match ofEntries? .strict (t.entries.map fun e => (e.1, datetimeAsTable e.2)) with
    | some s => .ok s
    | none => .error .malformed

/-- Settings from what came of reading a file. -/
def ofFile (file : Except ReadFailure String) : Except SettingsError Settings :=
  match file with
  | .error failure => .error (.unreadable failure)
  | .ok text => parse text

end Settings
end EnvelopeRules
