import EnvelopeRules.Proofs.Engine.Negative
import EnvelopeRules.Proofs.Store.Remembering

/-!
# Lookups within a time limit

What a store knows is found at once.  Anything else takes as long as the backend does, or is given
up when the limit is over.  Where nothing is given up, a longer limit changes nothing.
-/

namespace EnvelopeRules

namespace Store

variable {s : Store} {now short long : Nat} {q : Query}

theorem inTime_some_iff {delay limit : Nat} : inTime delay (some limit) ↔ delay ≤ limit :=
  decide_eq_true_iff

/-- A longer limit changes no call that is not given up. -/
theorem query_of_le (hle : short ≤ long) (h : (s.query (some short) now q).answer? ≠ none) :
    s.query (some long) now q = s.query (some short) now q := by
  by_cases hknows : s.Knows now q
  · obtain ⟨answer, hremembers⟩ := knows_iff.mp hknows
    have hsome := consult_eq_some_iff.mpr hremembers
    rw [query_of_remembered hsome, query_of_remembered hsome]
  · have hshort : inTime s.backend.delay (some short) := by
      by_contra hlate
      apply h
      rw [query_of_late hknows (Bool.not_eq_true _ ▸ hlate)]
    have hlong : inTime s.backend.delay (some long) :=
      inTime_some_iff.mpr ((inTime_some_iff.mp hshort).trans hle)
    cases hanswer : s.backend.answer q with
    | ok answer => rw [query_of_ok hknows hshort hanswer, query_of_ok hknows hlong hanswer]
    | error err => rw [query_of_error hknows hshort hanswer, query_of_error hknows hlong hanswer]

end Store

namespace StoreState

variable {st : StoreState} {timeout longer : Nat} {id : String} {s : Store} {q : Query}

/-! ## One lookup -/

theorem query_of_inTime (hs : st.stores.resolve id = some s) (hknows : ¬ s.Knows st.now q)
    (hle : s.backend.delay ≤ timeout) :
    (st.query timeout id q).1 = (s.backend.answer q).mapError (.store id) ∧
      (st.query timeout id q).2.now = st.now + s.backend.delay := by
  have hin : Store.inTime s.backend.delay (some timeout) := Store.inTime_some_iff.mpr hle
  have hanswers : s.Answers (some timeout) st.now q (some (s.backend.answer q)) :=
    .asked (Store.consult_eq_none_iff.mpr hknows) hin
  rw [query_of_answers hs hanswers, query_snd hs]
  cases hanswer : s.backend.answer q with
  | ok answer =>
      rw [Store.query_of_ok hknows hin hanswer]
      exact ⟨rfl, rfl⟩
  | error err =>
      rw [Store.query_of_error hknows hin hanswer]
      exact ⟨rfl, rfl⟩

theorem query_of_late (hs : st.stores.resolve id = some s) (hknows : ¬ s.Knows st.now q)
    (hlt : timeout < s.backend.delay) :
    (st.query timeout id q).1 = .error (.lookupTimeout id timeout) ∧
      (st.query timeout id q).2.now = st.now + timeout := by
  have hlate : Store.inTime s.backend.delay (some timeout) = false := by
    rw [← Bool.not_eq_true, Store.inTime_some_iff]
    exact Nat.not_le_of_lt hlt
  have hanswers : s.Answers (some timeout) st.now q none :=
    .late (Store.consult_eq_none_iff.mpr hknows) hlate
  rw [query_of_answers hs hanswers, query_snd hs, Store.query_of_late hknows hlate]
  exact ⟨rfl, rfl⟩

theorem query_of_remembers {answer : Option String} (hs : st.stores.resolve id = some s)
    (h : s.Remembers st.now q answer) :
    (st.query timeout id q).1 = .ok answer ∧ (st.query timeout id q).2.now = st.now := by
  have hsome := Store.consult_eq_some_iff.mpr h
  have hanswers : s.Answers (some timeout) st.now q (some (.ok answer)) := .remembered hsome
  rw [query_of_answers hs hanswers, query_snd hs, Store.query_of_remembered hsome]
  exact ⟨rfl, rfl⟩

theorem remembers_of_inTime {c : Cache} {answer : Option String}
    (hs : st.stores.resolve id = some s) (hc : s.cache = some c) (hknows : ¬ s.Knows st.now q)
    (hle : s.backend.delay ≤ timeout) (hanswer : s.backend.answer q = .ok answer) :
    ∃ s', (st.query timeout id q).2.stores.resolve id = some s' ∧
      ∀ t answer', s'.Remembers t q answer' ↔
        answer' = answer ∧ t ≤ st.now + s.backend.delay + c.settings.life answer := by
  have hin : Store.inTime s.backend.delay (some timeout) := Store.inTime_some_iff.mpr hle
  -- The answer goes into the cache that the look for it left.
  have hcache : (s.consult st.now q).2.asking.cache = some (c.consult st.now q).2 := by
    rw [Store.consult, hc]
    rfl
  have hsettings : (c.consult st.now q).2.settings = c.settings := (c.consult_eq st.now q).2.1
  refine ⟨_, (resolve_query hs id).trans (if_pos rfl), ?_⟩
  intro t answer'
  rw [Store.query_of_ok hknows hin hanswer, Store.remembers_remember hcache, hsettings]

/-- A lookup without an answer leaves nothing in the cache. -/
theorem pruned_of_unanswered (hs : st.stores.resolve id = some s)
    (h : ∀ answer, (st.query timeout id q).1 ≠ .ok answer) :
    ∃ p, s.Pruned st.now q p ∧ (st.query timeout id q).2.stores.resolve id = some p.asking := by
  have hanswers : ∀ answer, (s.query (some timeout) st.now q).answer? ≠ some (.ok answer) := by
    intro answer hanswer
    exact h answer (query_of_answers hs (Store.query_answer?_eq_iff.mp hanswer))
  obtain ⟨p, hpruned, hp⟩ := Store.pruned_of_unanswered hanswers
  refine ⟨p, hpruned, ?_⟩
  rw [resolve_query hs, if_pos rfl, hp]

theorem query_of_le (hle : timeout ≤ longer)
    (h : (st.query timeout id q).1 ≠ .error (.lookupTimeout id timeout)) :
    st.query longer id q = st.query timeout id q := by
  cases hs : st.stores.resolve id with
  | none => rw [query, query, hs]
  | some s =>
      have hanswer : (s.query (some timeout) st.now q).answer? ≠ none := by
        intro hnone
        exact h (query_of_answers hs (Store.query_answer?_eq_iff.mp hnone))
      rw [query, query, hs]
      dsimp only
      rw [Store.query_of_le hle hanswer]
      cases hreply : (s.query (some timeout) st.now q).answer? with
      | none => exact absurd hreply hanswer
      | some answer => cases answer <;> rfl

/-! ## Runs -/

/-- A lookup of a query or of a rule, or a wait. -/
inductive Visit where
  | query (id : String) (q : Query)
  | rule (r : LookupRule) (e : Envelope)
  | wait (ms : Nat)

/-- What comes of a visit. -/
inductive Finding where
  | member (answer : Eval (Option String))
  | value (answer : Eval Value)
  | waited

def visit (timeout : Nat) (st : StoreState) : Visit → Finding × StoreState
  | .query id q =>
    let r := st.query timeout id q
    (.member r.1, r.2)
  | .rule r e =>
    let r := st.evaluate timeout r e
    (.value r.1, r.2)
  | .wait ms => (.waited, { st with now := st.now + ms })

/-- What comes of some visits in order, each with the stores and the time after it. -/
def visits (timeout : Nat) : StoreState → List Visit → List (Finding × StoreState)
  | _, [] => []
  | st, v :: rest => visit timeout st v :: visits timeout (visit timeout st v).2 rest

/-- A lookup was given up because its time was over. -/
def Finding.Late : Finding → Prop
  | .member answer => ∃ id limit, answer = .error (.lookupTimeout id limit)
  | .value answer => ∃ id limit, answer = .error (.lookupTimeout id limit)
  | .waited => False

theorem evaluate_of_le {r : LookupRule} {e : Envelope} (hle : timeout ≤ longer)
    (h : ∀ id limit, (st.evaluate timeout r e).1 ≠ .error (.lookupTimeout id limit)) :
    st.evaluate longer r e = st.evaluate timeout r e := by
  rw [evaluate] at h
  rw [evaluate, evaluate]
  cases hrequest : r.request e with
  | error err => rfl
  | ok request =>
      cases request with
      | none => rfl
      | some request =>
          obtain ⟨id, q⟩ := request
          rw [hrequest] at h
          dsimp only at h ⊢
          have hquery : (st.query timeout id q).1 ≠ .error (.lookupTimeout id timeout) := by
            intro hlate
            apply h id timeout
            rw [hlate]
            rfl
          rw [query_of_le hle hquery]

/-- One visit goes the same way under a longer limit if nothing is given up under the shorter
one. -/
theorem visit_of_le {v : Visit} (hle : timeout ≤ longer) (h : ¬ (visit timeout st v).1.Late) :
    visit longer st v = visit timeout st v := by
  cases v with
  | query id q =>
      have hquery : (st.query timeout id q).1 ≠ .error (.lookupTimeout id timeout) := by
        intro hlate
        exact h ⟨id, timeout, hlate⟩
      rw [visit, visit, query_of_le hle hquery]
  | rule r e =>
      have hevaluate : ∀ id limit,
          (st.evaluate timeout r e).1 ≠ .error (.lookupTimeout id limit) := by
        intro id limit hlate
        exact h ⟨id, limit, hlate⟩
      rw [visit, visit, evaluate_of_le hle hevaluate]
  | wait ms => rfl

theorem visits_of_le {vs : List Visit} (hle : timeout ≤ longer)
    (h : ∀ r ∈ visits timeout st vs, ¬ r.1.Late) : visits longer st vs = visits timeout st vs := by
  induction vs generalizing st with
  | nil => rfl
  | cons v rest ih =>
      obtain ⟨hfirst, hrest⟩ := List.forall_mem_cons.mp h
      rw [visits, visits, visit_of_le hle hfirst, ih hrest]

/-! ## The law of the time limit -/

/-- What a time limit does to lookups among some stores at a time. -/
structure Limited (st : StoreState) (timeout : Nat) : Prop where
  /-- A remembered answer is found at once, whatever the limit, and the backend is not asked. -/
  remembered : ∀ id s q answer, st.stores.resolve id = some s → s.Remembers st.now q answer →
    (st.query timeout id q).1 = .ok answer ∧ (st.query timeout id q).2.now = st.now ∧
      ∃ s', (st.query timeout id q).2.stores.resolve id = some s' ∧ s'.asked = s.asked ∧
        ∀ t q', st.now ≤ t → (s'.consult t q').1 = (s.consult t q').1
  inTime : ∀ id s q, st.stores.resolve id = some s → (¬ ∃ answer, s.Remembers st.now q answer) →
    s.backend.delay ≤ timeout →
      (st.query timeout id q).1 = (s.backend.answer q).mapError (.store id) ∧
        (st.query timeout id q).2.now = st.now + s.backend.delay
  /-- The life of an answer starts when the answer comes, not when the backend was asked. -/
  cached : ∀ id s q c answer, st.stores.resolve id = some s → s.cache = some c →
    (¬ ∃ answer', s.Remembers st.now q answer') → s.backend.delay ≤ timeout →
    s.backend.answer q = .ok answer →
      ∃ s', (st.query timeout id q).2.stores.resolve id = some s' ∧
        ∀ t answer', s'.Remembers t q answer' ↔
          answer' = answer ∧ t ≤ st.now + s.backend.delay + c.settings.life answer
  late : ∀ id s q, st.stores.resolve id = some s → (¬ ∃ answer, s.Remembers st.now q answer) →
    timeout < s.backend.delay →
      (st.query timeout id q).1 = .error (.lookupTimeout id timeout) ∧
        (st.query timeout id q).2.now = st.now + timeout
  /-- Nothing comes into the cache unless the backend answers in time. -/
  unanswered : ∀ id s q, st.stores.resolve id = some s →
    (∀ answer, (st.query timeout id q).1 ≠ .ok answer) →
      ∃ p, s.Pruned st.now q p ∧
        (st.query timeout id q).2.stores.resolve id = some p.asking
  others : ∀ id q other, other ≠ id →
    (st.query timeout id q).2.stores.resolve other = st.stores.resolve other
  /-- Answers, stores and times of a run are the same under a longer limit. -/
  longer : ∀ longer vs, timeout ≤ longer → (∀ r ∈ visits timeout st vs, ¬ r.1.Late) →
    visits longer st vs = visits timeout st vs

theorem limited (st : StoreState) (timeout : Nat) : st.Limited timeout := by
  refine ⟨?remembered, ?inTime, ?cached, ?late, fun _ _ _ => pruned_of_unanswered, ?others,
    fun _ _ => visits_of_le⟩
  case remembered =>
    intro id s q answer hs h
    obtain ⟨hanswer, hnow⟩ : (st.query timeout id q).1 = .ok answer ∧
        (st.query timeout id q).2.now = st.now := query_of_remembers hs h
    have hknows : s.Knows st.now q := Store.knows_iff.mpr ⟨answer, h⟩
    refine ⟨hanswer, hnow, _, (resolve_query hs id).trans (if_pos rfl),
      Store.query_asked_of_knows hknows, fun t q' hle => ?_⟩
    rw [Store.query_of_remembered (Store.consult_eq_some_iff.mpr h), s.consult_consult hle]
  case inTime =>
    intro id s q hs hnone
    exact query_of_inTime hs (mt Store.knows_iff.mp hnone)
  case cached =>
    intro id s q c answer hs hc hnone
    exact remembers_of_inTime hs hc (mt Store.knows_iff.mp hnone)
  case late =>
    intro id s q hs hnone
    exact query_of_late hs (mt Store.knows_iff.mp hnone)
  case others =>
    intro id q other hne
    cases hs : st.stores.resolve id with
    | none => rw [query, hs]
    | some s => rw [resolve_query hs, if_neg hne]

/-- A store whose backend takes three milliseconds, and whose cache keeps an answer for five. -/
def slowStore : Store :=
  { (Store.ofMemory "mx" (.ofList ["a.example"])).cached ⟨1, 5, 5, Nat.one_pos⟩ with
    backend := (Backend.ofMemory (.ofList ["a.example"])).delayed 3 }

def slow : StoreState := ⟨⟨.ofList [("mx", slowStore)]⟩, 0⟩

/-- The limit may be over just when the answer comes, which is then found up to the eighth
millisecond; a shorter limit is too short. -/
theorem limited_slow :
    (slow.query 3 "mx" .any).1 = .ok (some "a.example") ∧
    (∃ s, (slow.query 3 "mx" .any).2.stores.resolve "mx" = some s ∧
      s.Remembers 8 .any (some "a.example") ∧ ¬ s.Remembers 9 .any (some "a.example")) ∧
    (slow.query 2 "mx" .any).1 = .error (.lookupTimeout "mx" 2) ∧
    visits 9 slow [.query "mx" .any, .wait 5, .query "mx" .any] =
      visits 3 slow [.query "mx" .any, .wait 5, .query "mx" .any] := by
  have hstore : slow.stores.resolve "mx" = some slowStore := rfl
  have hnone : ¬ ∃ answer, slowStore.Remembers 0 .any answer := by
    rw [← Store.knows_iff]
    exact Store.consult_eq_none_iff.mp rfl
  refine ⟨((limited slow 3).inTime "mx" _ .any hstore hnone (by decide)).1, ?_,
    ((limited slow 2).late "mx" _ .any hstore hnone (by decide)).1, ?_⟩
  · obtain ⟨s, hs, hremembers⟩ :=
      (limited slow 3).cached "mx" _ .any _ _ hstore rfl hnone (by decide) rfl
    refine ⟨s, hs, (hremembers 8 _).mpr ⟨rfl, by decide⟩, ?_⟩
    intro h
    exact absurd ((hremembers 9 _).mp h).2 (by decide)
  · apply (limited slow 3).longer 9 _ (by decide)
    have hfound : (visits 3 slow [.query "mx" .any, .wait 5, .query "mx" .any]).map Prod.fst =
        [.member (.ok (some "a.example")), .waited, .member (.ok (some "a.example"))] := rfl
    intro r hr hlate
    have hmem := List.mem_map_of_mem (f := Prod.fst) hr
    rw [hfound] at hmem
    simp only [List.mem_cons, List.not_mem_nil, or_false] at hmem
    rcases hmem with he | he | he <;> simp [he, Finding.Late] at hlate

end StoreState
end EnvelopeRules
