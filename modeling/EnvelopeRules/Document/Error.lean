import EnvelopeRules.Rule
import EnvelopeRules.Envelope.OfTable

/-!
# Why a document is refused
-/

namespace EnvelopeRules

/-- What is wrong with a rule whose parts can be read. -/
inductive RuleFault where
  | keyOnEvalRule
  | clauseAfterElse
  | elseWithCondition
  | missingIf
  | noOperator (field : String)
  | severalOperators (field : String)
  | missingThen (field : String)
  | missingElse
  | unsupportedLiteral (v : Toml.Value)
  | fallbackNamesNoStore (v : Value)

namespace RuleFault

def message : RuleFault → String
  | .keyOnEvalRule => "'key' is only valid for maybe-eval rules"
  | .clauseAfterElse => "'else' must be the last clause"
  | .elseWithCondition => "'else' clause cannot carry a condition"
  | .missingIf => "clause is missing 'if'"
  | .noOperator f => "condition on '" ++ f ++ "' has no operator"
  | .severalOperators f => "condition on '" ++ f ++ "' has more than one operator"
  | .missingThen f => "condition on '" ++ f ++ "' has no 'then'"
  | .missingElse => "missing terminal 'else' clause"
  | .unsupportedLiteral v => "unsupported literal '" ++ v.shown ++ "'"
  | .fallbackNamesNoStore v => "fallback '" ++ v.shown ++ "' is not a store identifier"

end RuleFault

/-- Why one entry of a document is refused. -/
inductive EntryError where
  | shape
  | pattern (source : String) (e : PatternError)
  | template (e : TemplateError)
  | unknownField (name : String)
  | invalidRule (fault : RuleFault)
  | unknownStore (id : String)
  | store (e : StoreError)

namespace EntryError

def shapeMessage : String := "Failed to parse rule document"

def message : EntryError → String
  | .shape => shapeMessage
  | .pattern source .malformed => "Invalid pattern '" ++ source ++ "': regex parse error"
  | .pattern source (.tooLarge limit) =>
    "Invalid pattern '" ++ source ++ "': Compiled regex exceeds size limit of " ++
      Decimal.ofNat limit ++ " bytes."
  | .template e => e.message
  | .unknownField name => EnvelopeError.unknownFieldText name
  | .invalidRule fault => "Invalid rule: " ++ fault.message
  | .unknownStore id => "Reference to undeclared store '" ++ id ++ "'"
  | .store e => e.message

end EntryError

/-- The parts of a document that hold entries, in the order in which they are loaded. -/
inductive DocumentSection where
  | store | eval | lookup
  deriving DecidableEq, Repr

namespace DocumentSection

def name : DocumentSection → String
  | .store => "store"
  | .eval => "eval"
  | .lookup => "maybe-eval"

end DocumentSection

/-- Why a document is refused as a whole. -/
inductive LoadError where
  | parse
  | envelope (e : EnvelopeError)
  | store (e : StoreError)
  | entry (part : DocumentSection) (name : String) (source : EntryError)

namespace LoadError

def message : LoadError → String
  | .parse => EntryError.shapeMessage
  | .envelope e => "Invalid envelope: " ++ e.message
  | .store e => e.message
  | .entry part name source => part.name ++ " '" ++ name ++ "': " ++ source.message

end LoadError
end EnvelopeRules
