import EnvelopeRules.Envelope.Basic
import EnvelopeRules.Toml.Printer

/-!
# Envelopes from tables

Each entry of a table gives the field of its name a value of the field's kind.  Numbers may also be
written as texts.  The first entry that does not fit, in the order of the names, is reported.
-/

namespace EnvelopeRules

inductive EnvelopeError where
  | unknownField (name : String)
  | invalidValue (field : Field) (value : Toml.Value)

namespace EnvelopeError

def unknownFieldText (name : String) : String := "Unknown envelope field: " ++ name

def message : EnvelopeError → String
  | .unknownField name => unknownFieldText name
  | .invalidValue f v =>
    "Validation error: Invalid value for envelope field '" ++ f.name ++ "': " ++ v.shown

def code : EnvelopeError → String
  | .unknownField _ => "UNKNOWN_FIELD"
  | .invalidValue _ _ => "VALIDATION_ERROR"

end EnvelopeError

namespace FieldValue

/-- The value that an entry of a table gives to a field of some kind. -/
def ofEntry? : FieldKind → Toml.Value → Option FieldValue
  | .domain, .text s => some (.text s)
  | .mailbox, .text s => some (.text s)
  | .address, .text s => (Address.parse? s).map .address
  | .integer, .integer n => some (.integer n)
  | .integer, .text s => (Decimal.int64? s).map .integer
  | .id, .integer n => if 0 ≤ n then some (.id n.toUInt64) else none
  | .id, .text s => (Decimal.uint64? s).map .id
  | _, _ => none

end FieldValue

namespace Envelope

def putEntry (e : Envelope) (name : String) (v : Toml.Value) : Except EnvelopeError Envelope :=
  match Field.named? name with
  | none => .error (.unknownField name)
  | some f =>
    match FieldValue.ofEntry? f.kind v with
    | some x => .ok (e.put f x)
    | none => .error (.invalidValue f v)

def ofEntries (e : Envelope) : List (String × Toml.Value) → Except EnvelopeError Envelope
  | [] => .ok e
  | (name, v) :: rest => do ofEntries (← e.putEntry name v) rest

def ofTable (t : Table Toml.Value) : Except EnvelopeError Envelope := ofEntries empty t.entries

end Envelope
end EnvelopeRules
