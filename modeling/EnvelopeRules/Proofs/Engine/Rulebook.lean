import EnvelopeRules.Engine
import EnvelopeRules.Proofs.Store.Members

/-!
# Rulebooks

A rulebook answers like an engine, but from the rules and the members of the stores alone, with no
cache, no clock and no limit.  An engine that serves a rulebook gives its answers, and serves it
still after every call.
-/

namespace EnvelopeRules

/-! ## Registered members -/

namespace Registry

/-- Whether the registered stores hold some members, each store its own. -/
structure Holds (r : Registry) (members : String → Option Memory) : Prop where
  absent : ∀ {id}, r.resolve id = none → members id = none
  present : ∀ {id s}, r.resolve id = some s → ∃ m, members id = some m ∧ s.Holds m

theorem resolve_update (r : Registry) (id other : String) (s : Store) :
    (r.update id s).resolve other = if other = id then some s else r.resolve other :=
  Table.find?_insert _ _ _ _

variable {r : Registry} {members : String → Option Memory}

theorem holds_empty : empty.Holds fun _ => none :=
  ⟨fun _ => rfl, fun h => by cases h⟩

theorem Holds.contains_iff (h : r.Holds members) {id : String} :
    r.contains id ↔ (members id).isSome := by
  have hc : r.contains id = (r.resolve id).isSome := rfl
  cases hr : r.resolve id with
  | none => simp [hc, hr, h.absent hr]
  | some s =>
      obtain ⟨m, hm, _⟩ := h.present hr
      simp [hc, hr, hm]

theorem Holds.update (h : r.Holds members) {id : String} {s : Store} {m : Memory} (hs : s.Holds m) :
    (r.update id s).Holds fun other => if other = id then some m else members other := by
  refine ⟨fun {other} habsent => ?_, fun {other} s' hpresent => ?_⟩
  · rw [resolve_update] at habsent
    split at habsent
    · cases habsent
    · rename_i hne
      simpa [hne] using h.absent habsent
  · rw [resolve_update] at hpresent
    split at hpresent
    · rename_i he
      cases hpresent
      exact ⟨m, by simp [he], hs⟩
    · rename_i hne
      simpa [hne] using h.present hpresent

/-- A store may take the place of one that holds the same members. -/
theorem Holds.replace (h : r.Holds members) {id : String} {s : Store} {m : Memory}
    (hm : members id = some m) (hs : s.Holds m) : (r.update id s).Holds members := by
  have hsame : (fun other => if other = id then some m else members other) = members := by
    funext other
    split
    · rename_i he
      rw [he, hm]
    · rfl
  exact hsame ▸ h.update hs

theorem Holds.insert (h : r.Holds members) {s : Store} {m : Memory} {r' : Registry}
    (hs : s.Holds m) (hr : r.insert s = .ok r') :
    r'.Holds fun other => if other = s.id then some m else members other := by
  rw [Registry.insert] at hr
  split at hr
  · cases hr
  · cases hr
    exact h.update hs

end Registry

/-! ## Answers of a rulebook -/

/-- What a caller asks of an engine. -/
inductive Call where
  | eval (name : String)
  | lookup (name : String)
  | evaluate (name : String)
  | verify (expectations : List Expectation)

inductive Answer where
  | value (result : Eval Value)
  | report (r : Report)

/-- Rules and the members of the stores that they may name. -/
structure Rulebook where
  evals : Table Rule
  lookups : Table LookupRule
  members : String → Option Memory

namespace Rulebook

def eval (b : Rulebook) (name : String) (e : Envelope) : Eval Value :=
  match b.evals.find? name with
  | none => .error (.ruleNotFound name)
  | some rule => (rule.evaluate e).map Outcome.value

/-- Asks the members of a store. -/
def ask (b : Rulebook) (id : String) (q : Query) : Eval (Option String) :=
  match b.members id with
  | none => .error (.storeNotFound id)
  | some m => .ok (m.answer q)

def decide (b : Rulebook) (r : LookupRule) (e : Envelope) : Eval Value :=
  match r.request e with
  | .error err => .error err
  | .ok none => .ok .no
  | .ok (some (id, q)) => (b.ask id q).map StoreState.memberValue

def lookup (b : Rulebook) (name : String) (e : Envelope) : Eval Value :=
  match b.lookups.find? name with
  | none => .error (.ruleNotFound name)
  | some r => b.decide r e

def evaluate (b : Rulebook) (name : String) (e : Envelope) : Eval Value :=
  if b.evals.contains name then b.eval name e else b.lookup name e

def check (b : Rulebook) (e : Envelope) (x : Expectation) : Verification :=
  ⟨x.kind, x.name, x.expected, match x.kind with
    | .eval => b.eval x.name e
    | .lookup => b.lookup x.name e⟩

def answer (b : Rulebook) (e : Envelope) : Call → Answer
  | .eval name => .value (b.eval name e)
  | .lookup name => .value (b.lookup name e)
  | .evaluate name => .value (b.evaluate name e)
  | .verify expectations => .report ⟨expectations.map (b.check e)⟩

end Rulebook

/-! ## Engines that serve a rulebook -/

/-- The answer of an engine to a call, and the engine after it. -/
def Engine.answer (en : Engine) (e : Envelope) : Call → Answer × Engine
  | .eval name => (.value (en.eval name e), en)
  | .lookup name => ((en.lookup name e).map Answer.value id)
  | .evaluate name => ((en.evaluate name e).map Answer.value id)
  | .verify expectations => ((en.verify expectations e).map Answer.report id)

structure RuleSet.Serves (r : RuleSet) (b : Rulebook) : Prop where
  evals : r.evals = b.evals
  lookups : r.lookups = b.lookups
  stores : r.stores.Holds b.members

theorem RuleSet.serves_empty : RuleSet.empty.Serves ⟨.empty, .empty, fun _ => none⟩ :=
  ⟨rfl, rfl, Registry.holds_empty⟩

theorem StoreState.query_of_holds {st : StoreState} {b : Rulebook} (h : st.stores.Holds b.members)
    (timeout : Nat) (id : String) (q : Query) :
    (st.query timeout id q).1 = b.ask id q ∧ (st.query timeout id q).2.stores.Holds b.members := by
  rw [StoreState.query, Rulebook.ask]
  cases hr : st.stores.resolve id with
  | none => exact ⟨by rw [h.absent hr], h⟩
  | some s =>
      obtain ⟨m, hm, hs⟩ := h.present hr
      obtain ⟨hanswer, hafter, _⟩ := hs.query timeout st.now q
      refine ⟨?_, h.replace hm hafter⟩
      simp only [hanswer, hm]

theorem StoreState.evaluate_of_holds {st : StoreState} {b : Rulebook}
    (h : st.stores.Holds b.members) (timeout : Nat) (r : LookupRule) (e : Envelope) :
    (st.evaluate timeout r e).1 = b.decide r e ∧
      (st.evaluate timeout r e).2.stores.Holds b.members := by
  rw [StoreState.evaluate, Rulebook.decide]
  cases r.request e with
  | error err => exact ⟨rfl, h⟩
  | ok request =>
      cases request with
      | none => exact ⟨rfl, h⟩
      | some request =>
          obtain ⟨hanswer, hafter⟩ := StoreState.query_of_holds h timeout request.1 request.2
          exact ⟨by simp only [hanswer], hafter⟩

namespace Engine

variable {en : Engine} {b : Rulebook}

theorem eval_of_serves (h : en.rules.Serves b) (name : String) (e : Envelope) :
    en.eval name e = b.eval name e := by
  cases hr : b.evals.find? name with
  | none => simp only [Engine.eval, RuleSet.eval, Rulebook.eval, h.evals, hr]
  | some r => simp only [Engine.eval, RuleSet.eval, Rulebook.eval, h.evals, hr]

theorem serves_withState (h : en.rules.Serves b) {st : StoreState}
    (hst : st.stores.Holds b.members) :
    (en.withState st).rules.Serves b :=
  ⟨h.evals, h.lookups, hst⟩

theorem lookup_of_serves (h : en.rules.Serves b) (name : String) (e : Envelope) :
    (en.lookup name e).1 = b.lookup name e ∧ (en.lookup name e).2.rules.Serves b := by
  rw [Engine.lookup, Rulebook.lookup, h.lookups]
  cases b.lookups.find? name with
  | none => exact ⟨rfl, h⟩
  | some r =>
      have hstate : en.state.stores.Holds b.members := h.stores
      obtain ⟨hanswer, hafter⟩ := StoreState.evaluate_of_holds hstate en.timeout r e
      exact ⟨hanswer, serves_withState h hafter⟩

theorem evaluate_of_serves (h : en.rules.Serves b) (name : String) (e : Envelope) :
    (en.evaluate name e).1 = b.evaluate name e ∧ (en.evaluate name e).2.rules.Serves b := by
  rw [Engine.evaluate, Rulebook.evaluate, h.evals]
  split
  · exact ⟨eval_of_serves h name e, h⟩
  · exact lookup_of_serves h name e

theorem run_of_serves (h : en.rules.Serves b) (e : Envelope) (x : Expectation) :
    ⟨x.kind, x.name, x.expected, (en.run x.kind x.name e).1⟩ = b.check e x ∧
      (en.run x.kind x.name e).2.rules.Serves b := by
  obtain ⟨kind, name, expected⟩ := x
  cases kind with
  | eval => exact ⟨by rw [Rulebook.check, ← eval_of_serves h]; rfl, h⟩
  | lookup =>
      obtain ⟨hanswer, hafter⟩ := lookup_of_serves h name e
      exact ⟨by rw [Rulebook.check, ← hanswer]; rfl, hafter⟩

theorem verifyAll_of_serves (h : en.rules.Serves b) (e : Envelope) (xs : List Expectation) :
    (verifyAll e en xs).1 = xs.map (b.check e) ∧ (verifyAll e en xs).2.rules.Serves b := by
  induction xs generalizing en with
  | nil => exact ⟨rfl, h⟩
  | cons x xs ih =>
      obtain ⟨hchecked, hafter⟩ := run_of_serves h e x
      obtain ⟨hresults, hlast⟩ := ih hafter
      refine ⟨?_, hlast⟩
      rw [verifyAll, List.map_cons, ← hchecked, ← hresults]

/-- An engine that serves a rulebook gives its answer to every call, and goes on serving it. -/
theorem answer_of_serves (h : en.rules.Serves b) (e : Envelope) (c : Call) :
    (en.answer e c).1 = b.answer e c ∧ (en.answer e c).2.rules.Serves b := by
  cases c with
  | eval name => exact ⟨congrArg Answer.value (eval_of_serves h name e), h⟩
  | lookup name =>
      obtain ⟨hanswer, hafter⟩ := lookup_of_serves h name e
      exact ⟨congrArg Answer.value hanswer, hafter⟩
  | evaluate name =>
      obtain ⟨hanswer, hafter⟩ := evaluate_of_serves h name e
      exact ⟨congrArg Answer.value hanswer, hafter⟩
  | verify expectations =>
      obtain ⟨hresults, hafter⟩ := verifyAll_of_serves h e expectations
      refine ⟨?_, hafter⟩
      rw [Rulebook.answer, ← hresults]
      rfl

/-- The states of an engine between calls, direct queries of its stores and waits. -/
inductive Reaches (initial : Engine) : Engine → Prop
  | initial : Reaches initial initial
  | call {en : Engine} (e : Envelope) (c : Call) : Reaches initial en →
      Reaches initial (en.answer e c).2
  | query {en : Engine} (limit : Nat) (id : String) (q : Query) : Reaches initial en →
      Reaches initial (en.withState (en.state.query limit id q).2)
  | advance {en : Engine} (ms : Nat) : Reaches initial en → Reaches initial (en.advance ms)

theorem Reaches.serves {initial : Engine} (h : initial.Reaches en) (hb : initial.rules.Serves b) :
    en.rules.Serves b := by
  induction h with
  | initial => exact hb
  | call e c _ ih => exact (answer_of_serves ih e c).2
  | @query en limit id q _ ih =>
      have hstate : en.state.stores.Holds b.members := ih.stores
      exact serves_withState ih (StoreState.query_of_holds hstate limit id q).2
  | advance ms _ ih => exact ih

end Engine
end EnvelopeRules
