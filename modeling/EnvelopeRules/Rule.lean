import EnvelopeRules.Condition

/-!
# Rules

A rule is a template, or conditions of which the first that holds decides, with a fallback for when
none holds.
-/

namespace EnvelopeRules

/-- What a caller gets. -/
inductive Value where
  | text (s : String)
  | integer (n : Int64)
  | bool (b : Bool)
  deriving DecidableEq, Repr

namespace Value

/-- The negative answer. -/
def no : Value := .bool false

def text? : Value → Option String
  | .text s => some s
  | _ => none

def isNo (v : Value) : Bool := v == no

def shown : Value → String
  | .text s => s
  | .integer n => Decimal.ofInt64 n
  | .bool b => if b then "true" else "false"

end Value

/-- What a rule gives: the text of a template, a literal, or nothing at all. -/
inductive Outcome where
  | rendered (text : String)
  | literal (v : Value)
  | noMatch
  deriving DecidableEq, Repr

namespace Outcome

def value : Outcome → Value
  | .rendered text => .text text
  | .literal v => v
  | .noMatch => .no

end Outcome

/-- A fallback of nothing means that there is no match. -/
inductive Rule where
  | template (t : Template)
  | conditional (conditions : List Condition) (fallback : Option Value)

namespace Rule

/-- The outcome of a fallback. -/
def fallbackOutcome : Option Value → Outcome
  | some v => .literal v
  | none => .noMatch

/-- Tries conditions in order. -/
def firstMatch (e : Envelope) (fallback : Option Value) : List Condition → Eval (Outcome × Captures)
  | [] => .ok (fallbackOutcome fallback, .none)
  | c :: rest =>
    match c.evaluate e with
    | .error err => .error err
    | .ok none => firstMatch e fallback rest
    | .ok (some captures) =>
      match c.result.render captures e with
      | .error err => .error err
      | .ok text => .ok (.rendered text, captures)

/-- The outcome with the captures of the condition that decided. -/
def evaluateCaptured (r : Rule) (e : Envelope) : Eval (Outcome × Captures) :=
  match r with
  | .template t =>
    match t.render .none e with
    | .error err => .error err
    | .ok text => .ok (.rendered text, .none)
  | .conditional conditions fallback => firstMatch e fallback conditions

def evaluate (r : Rule) (e : Envelope) : Eval Outcome := (r.evaluateCaptured e).map Prod.fst

/-- The templates that the rule may render. -/
def templates : Rule → List Template
  | .template t => [t]
  | .conditional conditions _ => conditions.map Condition.result

def fallback? : Rule → Option Value
  | .template _ => none
  | .conditional _ fallback => fallback

end Rule
end EnvelopeRules
