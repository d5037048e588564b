import EnvelopeRules.Proofs.Engine.Negative
import EnvelopeRules.Proofs.Rule.Naming
import EnvelopeRules.Proofs.Store.Remembering

/-!
# The one call of a lookup

A lookup calls the store that its rule names, once, and no other store.  If it names none, or its
key has no text, or there is no such store, then nothing is called and everything stays as it was.
-/

namespace EnvelopeRules

/-- Stores at a moment, with the calls that came to them so far. -/
structure CallLog where
  state : StoreState
  calls : List (String × Query)

namespace CallLog

/-- Calls a registered store within a time limit and notes the call. -/
def query (timeout : Nat) (id : String) (q : Query) (l : CallLog) :
    Eval (Option String) × CallLog :=
  match l.state.stores.resolve id with
  | none => (.error (.storeNotFound id), l)
  | some s =>
    let reply := s.query (some timeout) l.state.now q
    (StoreState.reported id timeout reply.answer?,
      ⟨⟨l.state.stores.update id reply.store, reply.now⟩, l.calls ++ [(id, q)]⟩)

def evaluate (timeout : Nat) (r : LookupRule) (e : Envelope) (l : CallLog) : Eval Value × CallLog :=
  r.carryOut (query timeout) l e

end CallLog

namespace StoreState

/-- The calls of stores by which a lookup rule is evaluated. -/
def calls (st : StoreState) (timeout : Nat) (r : LookupRule) (e : Envelope) :
    List (String × Query) :=
  (CallLog.evaluate timeout r e ⟨st, []⟩).2.calls

variable {st : StoreState} {timeout : Nat} {r : LookupRule} {e : Envelope} {id : String} {q : Query}
  {s : Store}

/-! ## Known and unknown stores -/

theorem query_of_none (h : st.stores.resolve id = none) :
    st.query timeout id q = (.error (.storeNotFound id), st) := by
  rw [query, h]

theorem query_of_some (h : st.stores.resolve id = some s) :
    st.query timeout id q =
      (reported id timeout (s.query (some timeout) st.now q).answer?,
        ⟨st.stores.update id (s.query (some timeout) st.now q).store,
          (s.query (some timeout) st.now q).now⟩) := by
  apply Prod.ext
  · exact query_of_answers h (s.answers_query (some timeout) st.now q)
  · exact query_snd h

theorem evaluate_of_unknown (hasks : r.Asks e id q) (h : st.stores.resolve id = none) :
    st.evaluate timeout r e = (.error (.storeNotFound id), st) := by
  rw [evaluate, LookupRule.request_eq_iff.mpr (.asks hasks)]
  dsimp only
  rw [query_of_none h]
  rfl

theorem evaluate_of_known (hasks : r.Asks e id q) (h : st.stores.resolve id = some s) :
    st.evaluate timeout r e =
      ((reported id timeout (s.query (some timeout) st.now q).answer?).map memberValue,
        ⟨st.stores.update id (s.query (some timeout) st.now q).store,
          (s.query (some timeout) st.now q).now⟩) := by
  rw [evaluate, LookupRule.request_eq_iff.mpr (.asks hasks)]
  dsimp only
  rw [query_of_some h]

/-! ## Noting calls -/

/-- A call goes the same way whether it is noted or not. -/
theorem log_query (l : CallLog) :
    ((l.query timeout id q).1, (l.query timeout id q).2.state) = l.state.query timeout id q := by
  rw [CallLog.query]
  cases h : l.state.stores.resolve id with
  | none => rw [query_of_none h]
  | some s => rw [query_of_some h]

theorem log_evaluate (l : CallLog) :
    ((l.evaluate timeout r e).1, (l.evaluate timeout r e).2.state) =
      l.state.evaluate timeout r e := by
  rw [CallLog.evaluate, LookupRule.carryOut, evaluate]
  cases r.request e with
  | error err => rfl
  | ok asked =>
      cases asked with
      | none => rfl
      | some asked =>
          obtain ⟨id, q⟩ := asked
          dsimp only
          rw [← log_query l]

theorem calls_of_asks (hasks : r.Asks e id q) :
    st.calls timeout r e = (CallLog.query timeout id q ⟨st, []⟩).2.calls := by
  rw [calls, CallLog.evaluate, LookupRule.carryOut, LookupRule.request_eq_iff.mpr (.asks hasks)]

theorem calls_of_known (hasks : r.Asks e id q) (h : st.stores.resolve id = some s) :
    st.calls timeout r e = [(id, q)] := by
  rw [calls_of_asks hasks, CallLog.query, h]
  rfl

theorem calls_of_unknown (hasks : r.Asks e id q) (h : st.stores.resolve id = none) :
    st.calls timeout r e = [] := by
  rw [calls_of_asks hasks, CallLog.query, h]

theorem calls_of_noMatch (h : r.rule.evaluate e = .ok .noMatch) : st.calls timeout r e = [] := by
  rw [calls, CallLog.evaluate, LookupRule.carryOut, LookupRule.request_eq_iff.mpr (.noMatch h)]

theorem calls_of_unasked {err : EvalError} (h : r.Unasked e err) : st.calls timeout r e = [] := by
  rw [calls, CallLog.evaluate, LookupRule.carryOut, LookupRule.request_eq_iff.mpr (.unasked h)]

/-- Either one registered store is called, or none and nothing changes. -/
theorem calls_cases (st : StoreState) (timeout : Nat) (r : LookupRule) (e : Envelope) :
    (∃ id q s, r.Asks e id q ∧ st.stores.resolve id = some s ∧ st.calls timeout r e = [(id, q)]) ∨
      ((∀ id q, r.Asks e id q → st.stores.resolve id = none) ∧ st.calls timeout r e = [] ∧
        (st.evaluate timeout r e).2 = st) := by
  have hunique : ∀ {result} id q, r.Requests e result → r.Asks e id q →
      result = .ok (some (id, q)) := by
    intro result id q hresult hasks
    rw [← LookupRule.request_eq_iff.mpr hresult]
    exact LookupRule.request_eq_iff.mpr (.asks hasks)
  have hrequests := r.requests_request e
  generalize r.request e = result at hrequests
  cases hrequests with
  | @asks id q hasks =>
      cases h : st.stores.resolve id with
      | some s => exact .inl ⟨id, q, s, hasks, h, calls_of_known hasks h⟩
      | none =>
          refine .inr ⟨?_, calls_of_unknown hasks h, ?_⟩
          · intro id' q' hasks'
            cases hunique id' q' (.asks hasks) hasks'
            exact h
          · rw [evaluate_of_unknown hasks h]
  | noMatch hnone =>
      refine .inr ⟨?_, calls_of_noMatch hnone, ?_⟩
      · intro id q hasks
        cases hunique id q (.noMatch hnone) hasks
      · rw [evaluate_of_noMatch hnone]
  | unasked hunasked =>
      refine .inr ⟨?_, calls_of_unasked hunasked, ?_⟩
      · intro id q hasks
        cases hunique id q (.unasked hunasked) hasks
      · rw [evaluate_of_unasked hunasked]

/-! ## The law of the single call -/

/-- What a lookup calls, and what it leaves alone. -/
structure CallsOnce (st : StoreState) (timeout : Nat) (r : LookupRule) (e : Envelope) : Prop where
  /-- Noting the calls changes neither the answer nor what is left behind. -/
  noted :
    ((CallLog.evaluate timeout r e ⟨st, []⟩).1, (CallLog.evaluate timeout r e ⟨st, []⟩).2.state) =
    st.evaluate timeout r e
  atMostOne : (st.calls timeout r e).length ≤ 1
  calls : ∀ id q, st.calls timeout r e = [(id, q)] ↔
    r.Asks e id q ∧ ∃ s, st.stores.resolve id = some s
  /-- The one call alone makes the answer, the stores and the time. -/
  called : ∀ id q s, r.Asks e id q → st.stores.resolve id = some s →
    st.evaluate timeout r e =
      ((reported id timeout (s.query (some timeout) st.now q).answer?).map memberValue,
        ⟨st.stores.update id (s.query (some timeout) st.now q).store,
          (s.query (some timeout) st.now q).now⟩)
  others : ∀ id q other, r.Asks e id q → other ≠ id →
    (st.evaluate timeout r e).2.stores.resolve other = st.stores.resolve other
  untouched : (¬ ∃ id q s, r.Asks e id q ∧ st.stores.resolve id = some s) →
    st.calls timeout r e = [] ∧ (st.evaluate timeout r e).2 = st
  failed : ∀ err, r.rule.evaluate e = .error err → st.evaluate timeout r e = (.error err, st)
  /-- Where no condition holds it does not matter what the key is. -/
  noMatch : r.rule.evaluate e = .ok .noMatch →
    ∀ key, st.evaluate timeout ⟨r.rule, key⟩ e = (.ok .no, st)
  /-- A key without a text is reported whether or not the store is known. -/
  keyless : ∀ id captures key err, r.rule.Yields e id captures → r.key = some key →
    key.render captures e = .error err → st.evaluate timeout r e = (.error err, st)
  unknown : ∀ id q, r.Asks e id q → st.stores.resolve id = none →
    st.evaluate timeout r e = (.error (.storeNotFound id), st)

theorem callsOnce (st : StoreState) (timeout : Nat) (r : LookupRule) (e : Envelope) :
    st.CallsOnce timeout r e := by
  refine ⟨log_evaluate ⟨st, []⟩, ?atMostOne, ?calls, fun _ _ _ => evaluate_of_known, ?others,
    ?untouched, ?failed, ?noMatch, ?keyless, fun _ _ => evaluate_of_unknown⟩
  case atMostOne =>
    rcases calls_cases st timeout r e with ⟨id, q, _, _, _, hcalls⟩ | ⟨_, hcalls, _⟩ <;>
      simp [hcalls]
  case calls =>
    intro id q
    constructor
    · intro h
      rcases calls_cases st timeout r e with ⟨id', q', s, hasks, hs, hcalls⟩ | ⟨_, hcalls, _⟩
      · cases hcalls.symm.trans h
        exact ⟨hasks, s, hs⟩
      · cases hcalls.symm.trans h
    · rintro ⟨hasks, s, hs⟩
      exact calls_of_known hasks hs
  case others =>
    intro id q other hasks hne
    cases hs : st.stores.resolve id with
    | none => rw [evaluate_of_unknown hasks hs]
    | some s =>
        rw [evaluate_of_known hasks hs]
        exact (Table.find?_insert _ _ _ _).trans (if_neg hne)
  case untouched =>
    intro hnone
    rcases calls_cases st timeout r e with ⟨id, q, s, hasks, hs, _⟩ | ⟨_, hcalls, hstate⟩
    · exact absurd ⟨id, q, s, hasks, hs⟩ hnone
    · exact ⟨hcalls, hstate⟩
  case failed =>
    intro err herr
    exact evaluate_of_unasked (.rule (Rule.evaluate_eq_error_iff.mp herr))
  case noMatch =>
    intro hnone key
    apply evaluate_of_noMatch
    exact hnone
  case keyless =>
    intro id captures key err hyields hkey herr
    obtain ⟨outcome, houtcome, hid⟩ := Rule.yields_iff.mp hyields
    apply evaluate_of_unasked
    exact .key houtcome hid hkey (Template.render_eq_error_iff.mp herr)

/-- A fallback names the one store that is called.  Without a sender its key has no text, which is
reported although there is no such store either. -/
theorem callsOnce_lists :
    LookupRule.lists.calls 0 .byFallback LookupRule.sent = [("list_mx1", .key "mx1")] ∧
      (⟨.empty, 0⟩ : StoreState).evaluate 0 .byFallback LookupRule.relayed =
        (.error (.fieldNotFound .sender), ⟨.empty, 0⟩) := by
  have hasks : LookupRule.byFallback.Asks LookupRule.sent "list_mx1" (.key "mx1") :=
    .intro rfl rfl (.key rfl rfl)
  have hyields : LookupRule.byFallback.rule.Yields LookupRule.relayed "list_mx1" .none :=
    Rule.yields_iff.mpr ⟨.literal (.text "list_mx1"), rfl, rfl⟩
  constructor
  · exact ((callsOnce _ 0 _ _).calls "list_mx1" (.key "mx1")).mpr ⟨hasks, _, rfl⟩
  · exact (callsOnce _ 0 _ _).keyless "list_mx1" .none _ _ hyields rfl rfl

end StoreState
end EnvelopeRules
