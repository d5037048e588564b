import EnvelopeRules.Toml.Document
import EnvelopeRules.Toml.Printer

/-!
# Documents as written

A document has a table for each of its parts, all of which may be left out; other names do not
count.
-/

namespace EnvelopeRules

structure RawDocument where
  envelope : Option (Table Toml.Value)
  stores : Table Toml.Value
  evals : Table Toml.Value
  lookups : Table Toml.Value
  deriving DecidableEq

namespace RawDocument

/-- The table that a value is.  A date or a time is a table of one entry. -/
def table? : Toml.Value → Option (Table Toml.Value)
  | .table entries => some (.ofList entries)
  | .datetime s => some (.ofList [(Toml.datetimeName, .text s)])
  | _ => none

def part? : Option Toml.Value → Option (Table Toml.Value)
  | none => some .empty
  | some v => table? v

/-- The entries of a part, dates and times as texts. -/
def entries? (v : Option Toml.Value) : Option (Table Toml.Value) :=
  (part? v).map (Table.mapValues fun _ v => v.plain)

def ofTable? (t : Table Toml.Value) : Option RawDocument := do
  let envelope ← match t.find? "envelope" with
    | none => some none
    | some v => (table? v).map some
  return ⟨envelope, ← entries? (t.find? "store"), ← entries? (t.find? "eval"),
    ← entries? (t.find? "maybe-eval")⟩

def parse? (text : String) : Option RawDocument := (Toml.parse? text).bind ofTable?

end RawDocument
end EnvelopeRules
