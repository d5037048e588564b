import EnvelopeRules.Document.Error
import EnvelopeRules.Document.Entry
import EnvelopeRules.Lookup

/-!
# Rules from clauses

Every clause but the last is a condition, and the last one is the fallback.  The first clause that
does not fit is reported.
-/

namespace EnvelopeRules

def Template.ofSource (source : String) : Except EntryError Template :=
  (Template.parse source).mapError .template

/-- The value that is written as a literal. -/
def Value.ofLiteral : Toml.Value → Except EntryError Value
  | .boolean b => .ok (.bool b)
  | .text s => .ok (.text s)
  | .integer n => .ok (.integer n)
  | v => .error (.invalidRule (.unsupportedLiteral v))

namespace Operator

def ofPattern (source : String) (sizeLimit : Nat) : Except EntryError Operator :=
  match Regex.compile source sizeLimit with
  | .ok r => .ok (.pattern r)
  | .error e => .error (.pattern source e)

end Operator

namespace Clause

/-- The only operator of a clause. -/
def operator (sizeLimit : Nat) (c : Clause) (name : String) : Except EntryError Operator :=
  match c.equals, c.startsWith, c.pattern with
  | some s, none, none => .ok (.equals s)
  | none, some s, none => .ok (.startsWith s)
  | none, none, some s => Operator.ofPattern s sizeLimit
  | none, none, none => .error (.invalidRule (.noOperator name))
  | _, _, _ => .error (.invalidRule (.severalOperators name))

/-- The condition that a clause without a fallback states. -/
def condition (sizeLimit : Nat) (c : Clause) : Except EntryError Condition :=
  match c.field with
  | none => .error (.invalidRule .missingIf)
  | some name =>
    match Field.named? name with
    | none => .error (.unknownField name)
    | some f => do
      let o ← c.operator sizeLimit name
      match c.result with
      | none => .error (.invalidRule (.missingThen name))
      | some source => return ⟨f, o, ← Template.ofSource source⟩

/-- Whether a clause holds nothing but a fallback. -/
def isBare (c : Clause) : Bool :=
  c.field.isNone && c.equals.isNone && c.startsWith.isNone && c.pattern.isNone && c.result.isNone

/-- The fallback that a literal stands for: the negative literal means that there is none. -/
def fallbackOf (v : Value) : Option Value := if v.isNo then none else some v

/-- The fallback that a clause states. -/
def fallbackValue (c : Clause) (v : Toml.Value) : Except EntryError (Option Value) :=
  if c.isBare then (Value.ofLiteral v).map fallbackOf
  else .error (.invalidRule .elseWithCondition)

/-- The conditions of clauses and the fallback of the last one. -/
def conditions (sizeLimit : Nat) : List Clause → Except EntryError (List Condition × Option Value)
  | [] => .error (.invalidRule .missingElse)
  | c :: rest =>
    match c.fallback with
    | some v =>
      match c.fallbackValue v, rest with
      | .error e, _ => .error e
      | .ok fallback, [] => .ok ([], fallback)
      | .ok _, _ :: _ => .error (.invalidRule .clauseAfterElse)
    | none =>
      match c.condition sizeLimit with
      | .error e => .error e
      | .ok condition => (conditions sizeLimit rest).map fun r => (condition :: r.1, r.2)

end Clause

namespace Rule

def ofClauses (sizeLimit : Nat) (cs : List Clause) : Except EntryError Rule :=
  (Clause.conditions sizeLimit cs).map fun r => .conditional r.1 r.2

def ofTest (sizeLimit : Nat) : RuleTest → Except EntryError Rule
  | .template source => (Template.ofSource source).map .template
  | .clauses cs => ofClauses sizeLimit cs

end Rule

namespace LookupRule

/-- A lookup rule whose fallback, if it has one, names a store. -/
def make (rule : Rule) (key : Option Template) : Except EntryError LookupRule :=
  match rule.fallback? with
  | none => .ok ⟨rule, key⟩
  | some (.text _) => .ok ⟨rule, key⟩
  | some v => .error (.invalidRule (.fallbackNamesNoStore v))

end LookupRule
end EnvelopeRules
