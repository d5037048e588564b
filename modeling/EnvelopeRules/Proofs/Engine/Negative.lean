import EnvelopeRules.Engine
import EnvelopeRules.Proofs.Rule.Asking
import EnvelopeRules.Proofs.Store.Answering

/-!
# Negative answers

The negative answer says that no condition held, or that a store has no such member.  Whatever goes
wrong on the way to an answer is reported as an error, and a text is never taken for the negative
answer, whatever it says.
-/

namespace EnvelopeRules

namespace Rule

variable {r : Rule} {e : Envelope}

/-- A rule is negative only if no condition holds and the fallback is negative. -/
theorem value_eq_no_iff :
    (r.evaluate e).map Outcome.value = .ok .no ↔
      ∃ conditions fallback, r = .conditional conditions fallback ∧ NoneHolds e conditions ∧
        (fallback = none ∨ fallback = some .no) := by
  rw [Result.map_eq_ok_iff]
  constructor
  · rintro ⟨outcome, h, hvalue⟩
    obtain ⟨captures, hcaptured⟩ := evaluate_eq_ok_iff.mp h
    cases outcome with
    | rendered text => cases hvalue
    | literal v =>
        cases hvalue
        obtain ⟨conditions, rfl, hnone⟩ := fallback_of_literal hcaptured
        exact ⟨conditions, some .no, rfl, hnone, .inr rfl⟩
    | noMatch =>
        obtain ⟨conditions, rfl, hnone⟩ := fallback_of_noMatch hcaptured
        exact ⟨conditions, none, rfl, hnone, .inl rfl⟩
  · rintro ⟨conditions, fallback, rfl, hnone, rfl | rfl⟩
    · exact ⟨.noMatch, evaluate_of_noneHolds hnone none, rfl⟩
    · exact ⟨.literal .no, evaluate_of_noneHolds hnone (some .no), rfl⟩

theorem evaluate_of_decides {t : Template} {captures : Captures} {text : String}
    (h : Decides e r t captures) (htext : t.render captures e = .ok text) :
    r.evaluate e = .ok (.rendered text) := by
  have hends := evaluateCaptured_of_ends (.decided h)
  rw [htext] at hends
  exact evaluate_eq_ok_iff.mpr ⟨captures, hends⟩

end Rule

/-! ## Lookups -/

namespace StoreState

/-- Why a store gives no answer in time: there is no such store, time ran out, or the store
failed. -/
inductive Unanswered (st : StoreState) (timeout : Nat) (id : String) (q : Query) : EvalError → Prop
  | unknown : st.stores.resolve id = none → Unanswered st timeout id q (.storeNotFound id)
  | late {s : Store} : st.stores.resolve id = some s → s.Answers (some timeout) st.now q none →
      Unanswered st timeout id q (.lookupTimeout id timeout)
  | failed {s : Store} {source : StoreError} : st.stores.resolve id = some s →
      s.Answers (some timeout) st.now q (some (.error source)) →
      Unanswered st timeout id q (.store id source)

inductive Fails (st : StoreState) (timeout : Nat) (r : LookupRule) (e : Envelope) : EvalError → Prop
  | unasked {err : EvalError} : r.Unasked e err → Fails st timeout r e err
  | unanswered {id : String} {q : Query} {err : EvalError} : r.Asks e id q →
      st.Unanswered timeout id q err → Fails st timeout r e err

variable {st : StoreState} {timeout : Nat} {r : LookupRule} {e : Envelope}

theorem query_of_unknown {id : String} (q : Query) (h : st.stores.resolve id = none) :
    (st.query timeout id q).1 = .error (.storeNotFound id) := by
  rw [query, h]

def reported (id : String) (timeout : Nat) :
    Option (Except StoreError (Option String)) → Eval (Option String)
  | some (.ok member) => .ok member
  | some (.error source) => .error (.store id source)
  | none => .error (.lookupTimeout id timeout)

theorem query_of_answers {id : String} {q : Query} {s : Store}
    {answer : Option (Except StoreError (Option String))} (hs : st.stores.resolve id = some s)
    (h : s.Answers (some timeout) st.now q answer) :
    (st.query timeout id q).1 = reported id timeout answer := by
  rw [query, hs]
  dsimp only
  rw [Store.query_answer?_eq_iff.mpr h]
  rfl

theorem query_eq_ok_iff {id : String} {q : Query} {member : Option String} :
    (st.query timeout id q).1 = .ok member ↔ ∃ s, st.stores.resolve id = some s ∧
      s.Answers (some timeout) st.now q (some (.ok member)) := by
  constructor
  · intro h
    cases hs : st.stores.resolve id with
    | none => cases (query_of_unknown q hs).symm.trans h
    | some s =>
        obtain ⟨answer, hanswers⟩ : ∃ answer, s.Answers (some timeout) st.now q answer :=
          ⟨_, s.answers_query _ _ _⟩
        rw [query_of_answers hs hanswers] at h
        rcases answer with _ | _ | _ <;> cases h
        exact ⟨s, rfl, hanswers⟩
  · rintro ⟨s, hs, h⟩
    exact query_of_answers hs h

theorem query_eq_error_iff {id : String} {q : Query} {err : EvalError} :
    (st.query timeout id q).1 = .error err ↔ st.Unanswered timeout id q err := by
  constructor
  · intro h
    cases hs : st.stores.resolve id with
    | none =>
        cases (query_of_unknown q hs).symm.trans h
        exact .unknown hs
    | some s =>
        obtain ⟨answer, hanswers⟩ : ∃ answer, s.Answers (some timeout) st.now q answer :=
          ⟨_, s.answers_query _ _ _⟩
        rw [query_of_answers hs hanswers] at h
        rcases answer with _ | source | member <;> cases h
        · exact .late hs hanswers
        · exact .failed hs hanswers
  · rintro (hs | ⟨hs, h⟩ | ⟨hs, h⟩)
    · exact query_of_unknown q hs
    · exact query_of_answers hs h
    · exact query_of_answers hs h

theorem evaluate_of_asks {id : String} {q : Query} (h : r.Asks e id q) :
    (st.evaluate timeout r e).1 = (st.query timeout id q).1.map memberValue := by
  rw [evaluate, LookupRule.request_eq_iff.mpr (.asks h)]

theorem evaluate_of_noMatch (h : r.rule.evaluate e = .ok .noMatch) :
    st.evaluate timeout r e = (.ok .no, st) := by
  rw [evaluate, LookupRule.request_eq_iff.mpr (.noMatch h)]

theorem evaluate_of_unasked {err : EvalError} (h : r.Unasked e err) :
    st.evaluate timeout r e = (.error err, st) := by
  rw [evaluate, LookupRule.request_eq_iff.mpr (.unasked h)]

/-- A lookup gives the negative answer of its rule, or what the store that it asks answers. -/
theorem evaluate_eq_ok_iff {v : Value} :
    (st.evaluate timeout r e).1 = .ok v ↔
      (r.rule.evaluate e = .ok .noMatch ∧ v = .no) ∨
      ∃ id q s member, r.Asks e id q ∧ st.stores.resolve id = some s ∧
        s.Answers (some timeout) st.now q (some (.ok member)) ∧ v = memberValue member := by
  constructor
  · intro h
    have hrequests := r.requests_request e
    generalize r.request e = result at hrequests
    cases hrequests with
    | @asks id q hasks =>
        rw [evaluate_of_asks hasks, Result.map_eq_ok_iff] at h
        obtain ⟨member, hquery, rfl⟩ := h
        obtain ⟨s, hs, hanswers⟩ := query_eq_ok_iff.mp hquery
        exact .inr ⟨id, q, s, member, hasks, hs, hanswers, rfl⟩
    | noMatch hnone =>
        rw [evaluate_of_noMatch hnone] at h
        cases h
        exact .inl ⟨hnone, rfl⟩
    | unasked hunasked =>
        rw [evaluate_of_unasked hunasked] at h
        cases h
  · rintro (⟨hnone, rfl⟩ | ⟨id, q, s, member, hasks, hs, hanswers, rfl⟩)
    · rw [evaluate_of_noMatch hnone]
    · rw [evaluate_of_asks hasks, query_eq_ok_iff.mpr ⟨s, hs, hanswers⟩]
      rfl

theorem evaluate_eq_error_iff {err : EvalError} :
    (st.evaluate timeout r e).1 = .error err ↔ st.Fails timeout r e err := by
  constructor
  · intro h
    have hrequests := r.requests_request e
    generalize r.request e = result at hrequests
    cases hrequests with
    | asks hasks =>
        rw [evaluate_of_asks hasks, Result.map_eq_error_iff] at h
        exact .unanswered hasks (query_eq_error_iff.mp h)
    | noMatch hnone =>
        rw [evaluate_of_noMatch hnone] at h
        cases h
    | unasked hunasked =>
        rw [evaluate_of_unasked hunasked] at h
        cases h
        exact .unasked hunasked
  · rintro (hunasked | ⟨hasks, hunanswered⟩)
    · rw [evaluate_of_unasked hunasked]
    · rw [evaluate_of_asks hasks, query_eq_error_iff.mpr hunanswered]
      rfl

end StoreState

/-! ## Engines -/

namespace Engine

theorem eval_eq_error_iff {en : Engine} {name : String} {e : Envelope} {err : EvalError} :
    en.eval name e = .error err ↔
      (en.rules.evals.find? name = none ∧ err = .ruleNotFound name) ∨
      ∃ rule, en.rules.evals.find? name = some rule ∧ Rule.Fails e rule err := by
  rw [eval, RuleSet.eval]
  cases en.rules.evals.find? name with
  | none => simp [eq_comm]
  | some rule => simp [Result.map_eq_error_iff, Rule.evaluate_eq_error_iff]

theorem eval_of_found {en : Engine} {name : String} {rule : Rule} (e : Envelope)
    (h : en.rules.evals.find? name = some rule) :
    en.eval name e = (rule.evaluate e).map Outcome.value := by
  rw [eval, RuleSet.eval, h]

/-- When a rule or a lookup gives the negative answer, and when it fails instead.  A template that
decides gives its text, and any other answer of a lookup is the member that the store answered. -/
theorem negative_iff (en : Engine) (name : String) (st : StoreState) (timeout : Nat)
    (r : LookupRule) (e : Envelope) :
    (en.eval name e = .ok .no ↔ ∃ conditions fallback,
      en.rules.evals.find? name = some (.conditional conditions fallback) ∧
        Rule.NoneHolds e conditions ∧ (fallback = none ∨ fallback = some .no)) ∧
    (∀ err, en.eval name e = .error err ↔
      (en.rules.evals.find? name = none ∧ err = .ruleNotFound name) ∨
      ∃ rule, en.rules.evals.find? name = some rule ∧ Rule.Fails e rule err) ∧
    (∀ rule t captures text, en.rules.evals.find? name = some rule →
      Rule.Decides e rule t captures →
      t.render captures e = .ok text → en.eval name e = .ok (.text text)) ∧
    ((st.evaluate timeout r e).1 = .ok .no ↔ r.rule.evaluate e = .ok .noMatch ∨
      ∃ id q s, r.Asks e id q ∧ st.stores.resolve id = some s ∧
        s.Answers (some timeout) st.now q (some (.ok none))) ∧
    (∀ v, v ≠ .no → ((st.evaluate timeout r e).1 = .ok v ↔
      ∃ id q s member, r.Asks e id q ∧ st.stores.resolve id = some s ∧
        s.Answers (some timeout) st.now q (some (.ok (some member))) ∧ v = .text member)) ∧
    ∀ err, (st.evaluate timeout r e).1 = .error err ↔ st.Fails timeout r e err := by
  refine ⟨?_, fun err => eval_eq_error_iff, ?_, ?_, ?_, fun err => StoreState.evaluate_eq_error_iff⟩
  · cases hrule : en.rules.evals.find? name with
    | none => simp [eval, RuleSet.eval, hrule]
    | some rule =>
        rw [eval_of_found e hrule, Rule.value_eq_no_iff]
        simp
  · intro rule t captures text hrule hdecides htext
    rw [eval_of_found e hrule, Rule.evaluate_of_decides hdecides htext]
    rfl
  · rw [StoreState.evaluate_eq_ok_iff]
    constructor
    · rintro (⟨hnone, _⟩ | ⟨id, q, s, member, hasks, hs, hanswers, hv⟩)
      · exact .inl hnone
      · cases member with
        | none => exact .inr ⟨id, q, s, hasks, hs, hanswers⟩
        | some text => cases hv
    · rintro (hnone | ⟨id, q, s, hasks, hs, hanswers⟩)
      · exact .inl ⟨hnone, rfl⟩
      · exact .inr ⟨id, q, s, none, hasks, hs, hanswers, rfl⟩
  · intro v hv
    rw [StoreState.evaluate_eq_ok_iff]
    constructor
    · rintro (⟨_, he⟩ | ⟨id, q, s, member, hasks, hs, hanswers, he⟩)
      · exact absurd he hv
      · cases member with
        | none => exact absurd he hv
        | some text => exact ⟨id, q, s, text, hasks, hs, hanswers, he⟩
    · rintro ⟨id, q, s, member, hasks, hs, hanswers, he⟩
      exact .inr ⟨id, q, s, some member, hasks, hs, hanswers, he⟩

/-- A rule that spells the negative answer, and a store with that spelling as its only member. -/
def spelling : Engine :=
  ofRules ⟨Table.empty.insert "spell" (.template ⟨"false", [.literal "false"]⟩), .empty,
    ⟨Table.empty.insert "words" (.ofMemory "words" (.ofList ["false"]))⟩⟩ 0

def anyWord : LookupRule := ⟨.template ⟨"words", [.literal "words"]⟩, none⟩

/-- Neither the rendered nor the stored spelling is the negative answer. -/
theorem negative_iff_spelling :
    spelling.eval "spell" .empty = .ok (.text "false") ∧ spelling.eval "spell" .empty ≠ .ok .no ∧
      (spelling.state.evaluate 0 anyWord .empty).1 = .ok (.text "false") := by
  obtain ⟨hno, _, htext, _, hmember, _⟩ :=
    negative_iff spelling "spell" spelling.state 0 anyWord .empty
  refine ⟨htext _ _ _ _ rfl (.template _) rfl, fun h => ?_, ?_⟩
  · obtain ⟨conditions, fallback, hrule, _⟩ := hno.mp h
    cases hrule
  · have hasks : anyWord.Asks .empty "words" .any := .intro rfl rfl (.any rfl)
    exact (hmember _ (by decide)).mpr
      ⟨_, _, _, "false", hasks, rfl, Store.query_answer?_eq_iff.mp rfl, rfl⟩

end Engine
end EnvelopeRules
