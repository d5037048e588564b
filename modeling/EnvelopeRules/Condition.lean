import EnvelopeRules.Template.Basic
import EnvelopeRules.Regex.Basic
import EnvelopeRules.Text.Quoted

/-!
# Conditions

A condition compares the text of a field with an operand.  If it holds, its captures go to the
template that follows it: the whole text, or the match of a pattern with its groups.
-/

namespace EnvelopeRules

inductive Operator where
  | equals (operand : String)
  | startsWith (operand : String)
  | pattern (regex : Regex)

namespace Operator

def name : Operator → String
  | .equals _ => "eq"
  | .startsWith _ => "starts-with"
  | .pattern _ => "matches"

def operand : Operator → String
  | .equals operand => operand
  | .startsWith operand => operand
  | .pattern regex => regex.source

/-- The name of the operator with its quoted operand. -/
def text (o : Operator) : String := o.name ++ " " ++ Quoted.encode o.operand

/-- The captures of the operator on a text, if it holds. -/
def captures? : Operator → String → Option Captures
  | .equals operand, text => if text = operand then some (.whole text) else none
  | .startsWith operand, text =>
    if operand.toList.isPrefixOf text.toList then some (.whole text) else none
  | .pattern regex, text => (regex.captures? text).map Captures.mk

/-- How many captures the operator gives whenever it holds. -/
def captureCount : Operator → Nat
  | .equals _ => 1
  | .startsWith _ => 1
  | .pattern regex => regex.groups + 1

theorem size_captures {o : Operator} {text : String} {c : Captures}
    (h : o.captures? text = some c) : c.size = o.captureCount := by
  cases o with
  | equals operand =>
    simp only [captures?] at h
    split at h
    · cases h; rfl
    · cases h
  | startsWith operand =>
    simp only [captures?] at h
    split at h
    · cases h; rfl
    · cases h
  | pattern regex =>
    simp only [captures?, Option.map_eq_some_iff] at h
    obtain ⟨groups, hg, rfl⟩ := h
    exact Regex.length_captures hg

end Operator

structure Condition where
  field : Field
  operator : Operator
  result : Template

namespace Condition

/-- The captures of the condition on an envelope; nothing if it does not hold. -/
def evaluate (c : Condition) (e : Envelope) : Eval (Option Captures) :=
  match e.text? c.field with
  | none => .error (.fieldNotFound c.field)
  | some text => .ok (c.operator.captures? text)

end Condition
end EnvelopeRules
