import EnvelopeRules.Lookup

/-!
# Engines

An engine evaluates named rules of a set of rules on envelopes, and checks what they are expected to
give.  Lookups change its stores' caches and take time; nothing else changes.
-/

namespace EnvelopeRules

/-- How a named rule is declared: its result is the answer, or names the store that has it. -/
inductive RuleKind where
  | eval | lookup
  deriving DecidableEq, Repr

namespace RuleKind

def name : RuleKind → String
  | .eval => "eval"
  | .lookup => "maybe-eval"

end RuleKind

structure RuleSet where
  evals : Table Rule
  lookups : Table LookupRule
  stores : Registry

namespace RuleSet

def empty : RuleSet := ⟨.empty, .empty, .empty⟩

instance : Inhabited RuleSet := ⟨empty⟩

def size (r : RuleSet) : Nat := r.evals.size + r.lookups.size

def isEmpty (r : RuleSet) : Bool := r.evals.isEmpty && r.lookups.isEmpty

/-- Evaluates a rule that is declared for direct answers. -/
def eval (r : RuleSet) (name : String) (e : Envelope) : Eval Value :=
  match r.evals.find? name with
  | none => .error (.ruleNotFound name)
  | some rule => (rule.evaluate e).map Outcome.value

end RuleSet

/-- What a rule is expected to give. -/
structure Expectation where
  kind : RuleKind
  name : String
  expected : Value
  deriving DecidableEq

structure Verification where
  kind : RuleKind
  name : String
  expected : Value
  actual : Eval Value

namespace Verification

def passed (v : Verification) : Bool :=
  match v.actual with
  | .ok actual => actual == v.expected
  | .error _ => false

end Verification

structure Report where
  results : List Verification

namespace Report

def passed (r : Report) : Bool := r.results.all Verification.passed

def failures (r : Report) : List Verification := r.results.filter fun v => !v.passed

end Report

structure Engine where
  rules : RuleSet
  timeout : Nat
  now : Nat

namespace Engine

def ofRules (rules : RuleSet) (timeout : Nat) : Engine := ⟨rules, timeout, 0⟩

/-- Takes another set of rules. -/
def reload (en : Engine) (rules : RuleSet) : Engine := { en with rules }

def advance (en : Engine) (ms : Nat) : Engine := { en with now := en.now + ms }

def eval (en : Engine) (name : String) (e : Envelope) : Eval Value := en.rules.eval name e

/-- The stores at the time of the engine. -/
def state (en : Engine) : StoreState := ⟨en.rules.stores, en.now⟩

def withState (en : Engine) (st : StoreState) : Engine :=
  { en with rules := { en.rules with stores := st.stores }, now := st.now }

/-- Evaluates a lookup rule. -/
def lookup (en : Engine) (name : String) (e : Envelope) : Eval Value × Engine :=
  match en.rules.lookups.find? name with
  | none => (.error (.ruleNotFound name), en)
  | some rule =>
    let (answer, st) := en.state.evaluate en.timeout rule e
    (answer, en.withState st)

/-- Evaluates a rule as it is declared; a direct declaration comes first. -/
def evaluate (en : Engine) (name : String) (e : Envelope) : Eval Value × Engine :=
  if en.rules.evals.contains name then (en.eval name e, en) else en.lookup name e

def run (en : Engine) (kind : RuleKind) (name : String) (e : Envelope) : Eval Value × Engine :=
  match kind with
  | .eval => (en.eval name e, en)
  | .lookup => en.lookup name e

/-- Evaluates the rules of some expectations in order. -/
def verifyAll (e : Envelope) : Engine → List Expectation → List Verification × Engine
  | en, [] => ([], en)
  | en, x :: rest =>
    let (actual, en) := en.run x.kind x.name e
    let (results, en) := verifyAll e en rest
    (⟨x.kind, x.name, x.expected, actual⟩ :: results, en)

def verify (en : Engine) (expectations : List Expectation) (e : Envelope) : Report × Engine :=
  let (results, en) := verifyAll e en expectations
  (⟨results⟩, en)

end Engine
end EnvelopeRules
