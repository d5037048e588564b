/-!
# Errors of stores
-/

namespace EnvelopeRules

inductive StoreError where
  | unsupported (kind format : String)
  | duplicate (id : String)
  | backend (reason : String)
  deriving DecidableEq, Repr

namespace StoreError

def message : StoreError → String
  | .unsupported kind format =>
    "Unsupported store backend: type '" ++ kind ++ "', format '" ++ format ++ "'"
  | .duplicate id => "Duplicate store identifier: " ++ id
  | .backend reason => "Store backend error: " ++ reason

end StoreError
end EnvelopeRules
