import EnvelopeRules.Store.Error
import EnvelopeRules.Text.Quoted

/-!
# Queries and kinds of stores
-/

namespace EnvelopeRules

/-- A query asks for any member or for the member equal to a key. -/
inductive Query where
  | any
  | key (text : String)
  deriving DecidableEq, Repr

namespace Query

def shown : Query → String
  | .any => "Any"
  | .key text => "Key(" ++ Quoted.encode text ++ ")"

end Query

inductive StoreKind where
  | memory
  deriving DecidableEq, Repr

inductive StoreFormat where
  | list
  deriving DecidableEq, Repr

namespace StoreKind

def name : StoreKind → String
  | .memory => "memory"

def named (text : String) : Except StoreError StoreKind :=
  if text = memory.name then .ok .memory else .error (.unsupported text "")

end StoreKind

namespace StoreFormat

def name : StoreFormat → String
  | .list => "list"

def named (text : String) : Except StoreError StoreFormat :=
  if text = list.name then .ok .list else .error (.unsupported "" text)

end StoreFormat
end EnvelopeRules
