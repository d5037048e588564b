import EnvelopeRules.Envelope.Field
import EnvelopeRules.Store.Error
import EnvelopeRules.Template.Segment

/-!
# Why an evaluation gives no value
-/

namespace EnvelopeRules

inductive EvalError where
  | ruleNotFound (name : String)
  | fieldNotFound (field : Field)
  | captureOutOfRange (index available : Nat)
  | storeNotFound (id : String)
  | lookupTimeout (id : String) (timeout : Nat)
  | store (id : String) (source : StoreError)
  deriving DecidableEq

namespace EvalError

def message : EvalError → String
  | .ruleNotFound name => "Rule not found: " ++ name
  | .fieldNotFound f => "Envelope field not set: " ++ f.name
  | .captureOutOfRange index available =>
    "Capture group " ++ Template.reference (Decimal.ofNat index) ++ " out of range (" ++
      Decimal.ofNat available ++ " captured)"
  | .storeNotFound id => "Store not found: " ++ id
  | .lookupTimeout id timeout =>
    "Lookup in store '" ++ id ++ "' timed out after " ++ Decimal.ofNat timeout ++ "ms"
  | .store id source => "Lookup in store '" ++ id ++ "' failed: " ++ source.message

def code : EvalError → String
  | .ruleNotFound _ => "RULE_NOT_FOUND"
  | .fieldNotFound _ => "FIELD_NOT_FOUND"
  | .captureOutOfRange _ _ => "CAPTURE_OUT_OF_RANGE"
  | .storeNotFound _ => "STORE_NOT_FOUND"
  | .lookupTimeout _ _ => "LOOKUP_TIMEOUT"
  | .store _ _ => "STORE_ERROR"

end EvalError

/-- The outcome of an evaluation. -/
abbrev Eval (α : Type) := Except EvalError α

end EnvelopeRules
