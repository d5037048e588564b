import EnvelopeRules.Proofs.Store.Remembering

/-!
# Calls that leave no trace

A store with a cache asks its backend once for what it does not know and never for what it knows.  A
call that fails or is given up changes no answer of the cache, so that its query comes to the
backend again however much the store is used for others in between.
-/

namespace EnvelopeRules

/-- Whether a use of a store asks a query. -/
def Use.Asks (q : Query) : Use → Prop
  | .query _ asked => asked = q
  | .contains _ key => .key key = q
  | .invalidate => False
  | .wait _ => False
  | .backend _ => False

/-- A call that failed, or that its caller gave up. -/
def Reply.Fruitless (r : Reply) : Prop :=
  r.answer? = none ∨ ∃ err, r.answer? = some (.error err)

theorem Reply.Fruitless.ne_ok {r : Reply} (h : r.Fruitless) (answer : Option String) :
    r.answer? ≠ some (.ok answer) := by
  intro hok
  rcases h with hnone | ⟨err, herr⟩
  · cases hnone.symm.trans hok
  · cases herr.symm.trans hok

namespace Store

variable {s s' : Store} {limit : Option Nat} {now later : Nat} {q q' : Query} {r : Reply}
  {backend : Option (Except StoreError (Option String))}

theorem Knows.earlier (h : s.Knows later q) (hle : now ≤ later) : s.Knows now q := by
  obtain ⟨c, hc, hknows⟩ := h
  exact ⟨c, hc, hknows.earlier hle⟩

theorem knows_congr (h : (s'.consult now q).1 = (s.consult now q).1) :
    s'.Knows now q ↔ s.Knows now q := by
  rw [← not_iff_not, ← consult_eq_none_iff, ← consult_eq_none_iff, h]

theorem Called.now_le (h : s.Called limit now q r backend) : now ≤ r.now := by
  cases h with
  | remembered _ => exact Nat.le_refl _
  | answered _ => exact Nat.le_add_right _ _
  | failed _ => exact Nat.le_add_right _ _
  | late => exact Nat.le_add_right _ _

/-- A call for one query brings no entry for another one. -/
theorem Called.knows_of_ne (hcall : s.Called limit now q r backend) (hne : q' ≠ q)
    (hle : now ≤ later) (h : r.store.Knows later q') : s.Knows later q' := by
  have hconsult : ∀ p : Store, p = (s.consult now q).2 ∨ p = (s.consult now q).2.asking →
      p.Knows later q' → s.Knows later q' := by
    rintro p (rfl | rfl) hp
    · exact (knows_congr (s.consult_consult hle q q')).mp hp
    · exact (knows_congr ((asking_consult _ later q').trans (s.consult_consult hle q q'))).mp hp
  cases hcall with
  | remembered _ => exact hconsult _ (.inl rfl) h
  | failed _ => exact hconsult _ (.inr rfl) h
  | late => exact hconsult _ (.inr rfl) h
  | answered _ =>
      obtain ⟨c, hc, hknows⟩ := h
      obtain ⟨c', hc', rfl⟩ := Option.map_eq_some_iff.mp hc
      exact hconsult _ (.inr rfl) ⟨c', hc', Cache.knows_of_remember hne hknows⟩

/-- A fruitless call asks the backend for what it did not know, and goes on not to know it. -/
theorem not_knows_of_fruitless (h : (s.query limit now q).Fruitless) (hle : now ≤ later) :
    ¬ (s.query limit now q).store.Knows later q := by
  obtain ⟨p, hpruned, hp⟩ := pruned_of_unanswered h.ne_ok
  rw [hp, knows_congr ((asking_consult p later q).trans (hpruned.consult_eq hle q))]
  intro hknows
  exact not_knows_of_unanswered h.ne_ok (hknows.earlier hle)

end Store

namespace Watch

variable {w : Watch} {settings : CacheSettings} {q : Query}

theorem not_knows_step (h : ¬ w.store.Knows w.now q) {u : Use} (hu : ¬ u.Asks q) :
    ¬ (w.step u).store.Knows (w.step u).now q := by
  intro hknows
  cases u with
  | query limit asked =>
      have hcall := w.store.called_query limit w.now asked
      have hstill := hcall.knows_of_ne (Ne.symm hu) hcall.now_le hknows
      exact h (hstill.earlier hcall.now_le)
  | contains limit key =>
      have hcall := w.store.called_query limit w.now (.key key)
      have hstill := hcall.knows_of_ne (Ne.symm hu) hcall.now_le hknows
      exact h (hstill.earlier hcall.now_le)
  | invalidate =>
      obtain ⟨c, hc, hcleared⟩ := hknows
      obtain ⟨c', _, rfl⟩ := Option.map_eq_some_iff.mp hc
      exact c'.not_knows_clear _ q hcleared
  | wait ms => exact h (hknows.earlier (Nat.le_add_right w.now ms))
  | backend b => exact h hknows

/-- As long as a query is not asked, the store does not come to know an answer. -/
theorem not_knows_after {uses : List Use} (h : ¬ w.store.Knows w.now q)
    (huses : ∀ u ∈ uses, ¬ u.Asks q) : ¬ (w.after uses).store.Knows (w.after uses).now q := by
  induction uses generalizing w with
  | nil => exact h
  | cons u uses ih =>
      obtain ⟨hu, hrest⟩ := List.forall_mem_cons.mp huses
      exact ih (not_knows_step h hu) hrest

/-- What a store with a cache does not do: it asks for nothing that it knows, and a fruitless call
changes no answer. -/
structure Traceless (w : Watch) : Prop where
  spared : ∀ limit q, w.store.Knows w.now q →
    (w.store.query limit w.now q).store.asked = w.store.asked
  asked : ∀ limit q, ¬ w.store.Knows w.now q →
    (w.store.query limit w.now q).store.asked = w.store.asked + 1
  /-- Nothing but expired entries for the query itself may be gone. -/
  pruned : ∀ limit q, (w.store.query limit w.now q).Fruitless →
    ∃ c c', w.store.cache = some c ∧ c.Pruned w.now q c' ∧
      (w.store.query limit w.now q).store =
        { w.store with cache := some c', asked := w.store.asked + 1 }
  unchanged : ∀ limit q, (w.store.query limit w.now q).Fruitless → ∀ t q', w.now ≤ t →
    ((w.store.query limit w.now q).store.consult t q').1 = (w.store.consult t q').1
  /-- The backend is asked again, whatever is done before that does not ask this query. -/
  again : ∀ limit q, (w.store.query limit w.now q).Fruitless →
    ∀ uses, (∀ u ∈ uses, ¬ u.Asks q) → ∀ limit',
      let w' := (w.step (.query limit q)).after uses
      (w'.store.query limit' w'.now q).store.asked = w'.store.asked + 1
  /-- A lookup that gives no answer is a fruitless call of its store within the limit. -/
  lookup : ∀ (st : StoreState) timeout id q, st.stores.resolve id = some w.store → st.now = w.now →
    (∀ answer, (st.query timeout id q).1 ≠ .ok answer) →
      (w.store.query (some timeout) w.now q).Fruitless ∧
      (st.query timeout id q).2.stores.resolve id =
        some (w.store.query (some timeout) w.now q).store

theorem traceless_of_tracks (h : w.store.Tracks settings w.log) : w.Traceless := by
  refine ⟨fun limit q => Store.query_asked_of_knows, fun limit q => Store.query_asked_of_not_knows,
    ?pruned, ?unchanged, ?again, ?lookup⟩
  case pruned =>
    intro limit q hfruitless
    obtain ⟨p, hpruned, hp⟩ := Store.pruned_of_unanswered hfruitless.ne_ok
    obtain ⟨c, hc, _⟩ := h
    cases hpruned with
    | uncached hnone => cases hnone.symm.trans hc
    | cached hc' hcache => exact ⟨_, _, hc', hcache, hp⟩
  case unchanged =>
    intro limit q hfruitless t q' hle
    obtain ⟨p, hpruned, hp⟩ := Store.pruned_of_unanswered hfruitless.ne_ok
    rw [hp, Store.asking_consult, hpruned.consult_eq hle]
  case again =>
    intro limit q hfruitless uses huses limit'
    have hcall := w.store.called_query limit w.now q
    have hforgotten := Store.not_knows_of_fruitless hfruitless hcall.now_le
    exact Store.query_asked_of_not_knows (not_knows_after hforgotten huses)
  case lookup =>
    intro st timeout id q hs hnow herr
    have hresolve : (st.query timeout id q).2.stores.resolve id =
        some (w.store.query (some timeout) w.now q).store := by
      rw [StoreState.resolve_query hs, if_pos rfl, hnow]
    refine ⟨?_, hresolve⟩
    rw [StoreState.query, hs, hnow] at herr
    dsimp only at herr
    cases hanswer : (w.store.query (some timeout) w.now q).answer? with
    | none => exact .inl hanswer
    | some answer =>
        cases answer with
        | error err => exact .inr ⟨err, hanswer⟩
        | ok member =>
            rw [hanswer] at herr
            exact absurd rfl (herr member)

/-- Failed and cancelled calls leave no trace, whatever a store with a cache was used for and
whatever became of its backend. -/
theorem traceless_after (s : Store) (settings : CacheSettings) (now : Nat) (uses : List Use) :
    ((start s settings now).after uses).Traceless :=
  traceless_of_tracks (tracks_after (tracks_start s settings now) uses)

/-- A store of one member whose backend fails, when the answer that it remembers has expired. -/
def failing : Watch :=
  (start (.ofMemory "mx" (.ofList ["a.example"])) ⟨1, 5, 5, Nat.one_pos⟩ 0).after
    [.query none .any, .wait 6, .backend ((Backend.ofMemory (.ofList [])).failing "down")]

/-- Uses after the failure: another query fails as well, and then the backend is there again. -/
def recovery : List Use :=
  [.query none (.key "b.example"), .backend (.ofMemory (.ofList ["b.example"]))]

theorem traceless_after_failing :
    (failing.store.query none failing.now .any).answer? = some (.error (.backend "down")) ∧
    (((failing.step (.query none .any)).after recovery).store.query none 6 .any).store.asked =
      ((failing.step (.query none .any)).after recovery).store.asked + 1 ∧
    (((failing.step (.query none .any)).after recovery).store.query none 6 .any).answer? =
      some (.ok (some "b.example")) := by
  have hfails : (failing.store.query none failing.now .any).answer? =
      some (.error (.backend "down")) := rfl
  have htraceless := traceless_after (.ofMemory "mx" (.ofList ["a.example"]))
    ⟨1, 5, 5, Nat.one_pos⟩ 0
    [.query none .any, .wait 6, .backend ((Backend.ofMemory (.ofList [])).failing "down")]
  have hothers : ∀ u ∈ recovery, ¬ u.Asks .any := by
    simp [recovery, Use.Asks]
  exact ⟨hfails, htraceless.again none .any (.inr ⟨_, hfails⟩) recovery hothers none, rfl⟩

end Watch
end EnvelopeRules
