import EnvelopeRules.Lookup
import EnvelopeRules.Proofs.Store.Staleness

/-!
# What a store remembers

A store remembers an answer as long as its cache has an entry that has not expired.  If it remembers
none it asks its backend, and has then dropped at most what had expired; unless the backend answers
in time, nothing else has changed.
-/

namespace EnvelopeRules

/-! ## Recent answers -/

namespace Recent

variable {α : Type} {validUntil : α → Nat} {now : Nat} {q q' : Query} {l l' : Recent α}

theorem find?_of_find?_take {n : Nat} {a : α} (h : find? (l.take n) q = some a) :
    l.find? q = some a := by
  induction l generalizing n with
  | nil =>
      rw [List.take_nil] at h
      exact h
  | cons x rest ih =>
      cases n with
      | zero => cases h
      | succ n =>
          rw [List.take_succ_cons, find?_cons] at h
          rw [find?_cons]
          split at h
          · rename_i hx
            rw [if_pos hx]
            exact h
          · rename_i hx
            rw [if_neg hx]
            exact ih h

/-- A new answer brings no other one. -/
theorem find?_of_find?_put {capacity : Nat} {a b : α} (hne : q' ≠ q)
    (h : (l.put capacity q a).find? q' = some b) : l.find? q' = some b := by
  have hfind := find?_of_find?_take h
  rwa [find?_cons, if_neg (Ne.symm hne), find?_erase, if_neg hne] at hfind

/-- What is left of some answers if one to a query that has expired may be dropped. -/
inductive Pruned (validUntil : α → Nat) (now : Nat) (q : Query) (l : Recent α) : Recent α → Prop
  | same : Pruned validUntil now q l l
  | dropped {a : α} : l.find? q = some a → validUntil a < now →
      Pruned validUntil now q l (l.erase q)

theorem Pruned.touched (h : Pruned validUntil now q l l') : Touched validUntil now q l l' := by
  cases h with
  | same => exact .same
  | dropped hfind hlt => exact .dropped hfind hlt

end Recent

/-! ## Caches -/

namespace Cache

/-- Whether a cache has an entry for a query that has not expired. -/
def Knows (c : Cache) (now : Nat) (q : Query) : Prop :=
  (∃ member validUntil, c.members.find? q = some (member, validUntil) ∧ now ≤ validUntil) ∨
    ∃ validUntil, c.misses.find? q = some validUntil ∧ now ≤ validUntil

/-- The answer that a cache has to a query: a member that has not expired, or else a miss. -/
inductive Remembers (c : Cache) (now : Nat) (q : Query) : Option String → Prop
  | member {member : String} {validUntil : Nat} : c.members.find? q = some (member, validUntil) →
      now ≤ validUntil → Remembers c now q (some member)
  | miss {validUntil : Nat} :
      (∀ member expired, c.members.find? q = some (member, expired) → expired < now) →
      c.misses.find? q = some validUntil → now ≤ validUntil → Remembers c now q none

/-- What is left of a cache if entries for a query that have expired may be dropped. -/
structure Pruned (now : Nat) (q : Query) (c c' : Cache) : Prop where
  settings : c'.settings = c.settings
  members : Recent.Pruned Prod.snd now q c.members c'.members
  misses : Recent.Pruned id now q c.misses c'.misses

variable {c c' : Cache} {now later : Nat} {q q' : Query} {answer : Option String}

theorem consultMiss_eq_some_iff :
    (c.consultMiss now q).1 = some answer ↔
      answer = none ∧ ∃ validUntil, c.misses.find? q = some validUntil ∧ now ≤ validUntil := by
  rw [consultMiss]
  cases hmiss : c.misses.find? q with
  | none => simp
  | some validUntil =>
      by_cases hle : now ≤ validUntil <;> simp [hle, eq_comm]

theorem consult_eq_some_iff : (c.consult now q).1 = some answer ↔ c.Remembers now q answer := by
  rw [consult]
  cases hmember : c.members.find? q with
  | none =>
      dsimp only
      rw [consultMiss_eq_some_iff]
      constructor
      · rintro ⟨rfl, validUntil, hmiss, hle⟩
        refine .miss ?_ hmiss hle
        intro member expired hfind
        cases hmember.symm.trans hfind
      · intro h
        cases h with
        | member hfind _ => cases hmember.symm.trans hfind
        | miss _ hmiss hle => exact ⟨rfl, _, hmiss, hle⟩
  | some e =>
      obtain ⟨member, validUntil⟩ := e
      dsimp only
      by_cases hle : now ≤ validUntil
      · rw [if_pos hle]
        constructor
        · intro h
          cases h
          exact .member hmember hle
        · intro h
          cases h with
          | member hfind _ =>
              cases hmember.symm.trans hfind
              rfl
          | miss hexpired _ _ => exact absurd (hexpired _ _ hmember) (Nat.not_lt_of_le hle)
      · rw [if_neg hle, consultMiss_eq_some_iff]
        constructor
        · rintro ⟨rfl, validUntil', hmiss, hle'⟩
          refine .miss ?_ hmiss hle'
          intro member' expired hfind
          cases hmember.symm.trans hfind
          exact Nat.lt_of_not_le hle
        · intro h
          cases h with
          | member hfind hle' =>
              cases hmember.symm.trans hfind
              exact absurd hle' hle
          | miss _ hmiss hle' => exact ⟨rfl, _, hmiss, hle'⟩

theorem knows_iff : c.Knows now q ↔ ∃ answer, c.Remembers now q answer := by
  constructor
  · intro h
    by_cases hmember : ∃ member validUntil,
        c.members.find? q = some (member, validUntil) ∧ now ≤ validUntil
    · obtain ⟨member, validUntil, hfind, hle⟩ := hmember
      exact ⟨some member, .member hfind hle⟩
    · obtain ⟨validUntil, hmiss, hle⟩ := h.resolve_left hmember
      refine ⟨none, .miss ?_ hmiss hle⟩
      intro member expired hfind
      apply Nat.lt_of_not_le
      intro hle'
      exact hmember ⟨member, expired, hfind, hle'⟩
  · rintro ⟨answer, h⟩
    cases h with
    | member hfind hle => exact .inl ⟨_, _, hfind, hle⟩
    | miss _ hmiss hle => exact .inr ⟨_, hmiss, hle⟩

theorem Knows.earlier (h : c.Knows later q) (hle : now ≤ later) : c.Knows now q := by
  rcases h with ⟨member, validUntil, hfind, hvalid⟩ | ⟨validUntil, hmiss, hvalid⟩
  · exact .inl ⟨member, validUntil, hfind, Nat.le_trans hle hvalid⟩
  · exact .inr ⟨validUntil, hmiss, Nat.le_trans hle hvalid⟩

/-- An answer to one query brings no entry for another one. -/
theorem knows_of_remember {time : Nat} (hne : q' ≠ q)
    (h : (c.remember time q answer).Knows now q') : c.Knows now q' := by
  cases answer with
  | some member =>
      rcases h with ⟨member', validUntil, hfind, hle⟩ | ⟨validUntil, hmiss, hle⟩
      · exact .inl ⟨member', validUntil, Recent.find?_of_find?_put hne hfind, hle⟩
      · rw [remember, Recent.find?_erase, if_neg hne] at hmiss
        exact .inr ⟨validUntil, hmiss, hle⟩
  | none =>
      rcases h with ⟨member', validUntil, hfind, hle⟩ | ⟨validUntil, hmiss, hle⟩
      · rw [remember, Recent.find?_erase, if_neg hne] at hfind
        exact .inl ⟨member', validUntil, hfind, hle⟩
      · exact .inr ⟨validUntil, Recent.find?_of_find?_put hne hmiss, hle⟩

theorem not_knows_clear (c : Cache) (now : Nat) (q : Query) : ¬ c.clear.Knows now q := by
  rintro (⟨member, validUntil, hfind, _⟩ | ⟨validUntil, hmiss, _⟩)
  · cases hfind
  · cases hmiss

/-! ### What a look in vain leaves -/

theorem pruned_consultMiss (h : (c.consultMiss now q).1 = none) :
    (c.consultMiss now q).2.settings = c.settings ∧
      (c.consultMiss now q).2.members = c.members ∧
      Recent.Pruned id now q c.misses (c.consultMiss now q).2.misses := by
  rw [consultMiss] at h ⊢
  cases hmiss : c.misses.find? q with
  | none => exact ⟨rfl, rfl, .same⟩
  | some validUntil =>
      rw [hmiss] at h
      dsimp only at h ⊢
      by_cases hle : now ≤ validUntil
      · rw [if_pos hle] at h
        cases h
      · rw [if_neg hle]
        exact ⟨rfl, rfl, .dropped hmiss (Nat.lt_of_not_le hle)⟩

/-- A look that finds no answer moves nothing and drops what it found expired. -/
theorem pruned_consult (h : (c.consult now q).1 = none) : c.Pruned now q (c.consult now q).2 := by
  rw [consult] at h ⊢
  cases hmember : c.members.find? q with
  | none =>
      rw [hmember] at h
      obtain ⟨hsettings, hmembers, hmisses⟩ := pruned_consultMiss h
      exact ⟨hsettings, hmembers ▸ .same, hmisses⟩
  | some e =>
      obtain ⟨member, validUntil⟩ := e
      rw [hmember] at h
      dsimp only at h ⊢
      by_cases hle : now ≤ validUntil
      · rw [if_pos hle] at h
        cases h
      · rw [if_neg hle] at h ⊢
        obtain ⟨hsettings, hmembers, hmisses⟩ := pruned_consultMiss h
        refine ⟨hsettings, ?_, hmisses⟩
        rw [hmembers]
        exact .dropped hmember (Nat.lt_of_not_le hle)

/-- Dropping what has expired changes no answer, then or later. -/
theorem Pruned.consult_eq (h : c.Pruned now q c') (hle : now ≤ later) (q' : Query) :
    (c'.consult later q').1 = (c.consult later q').1 := by
  rw [(Cache.consult_eq c' later q').1, (Cache.consult_eq c later q').1,
    h.members.touched.valid? hle, h.misses.touched.valid? hle]

end Cache

/-! ## Stores -/

namespace Store

/-- Whether the cache of a store has an entry for a query that has not expired. -/
def Knows (s : Store) (now : Nat) (q : Query) : Prop := ∃ c, s.cache = some c ∧ c.Knows now q

/-- The answer that a store remembers to a query. -/
def Remembers (s : Store) (now : Nat) (q : Query) (answer : Option String) : Prop :=
  ∃ c, s.cache = some c ∧ c.Remembers now q answer

/-- What is left of a store if entries for a query that have expired may be dropped. -/
inductive Pruned (now : Nat) (q : Query) (s : Store) : Store → Prop
  | uncached : s.cache = none → Pruned now q s s
  | cached {c c' : Cache} : s.cache = some c → c.Pruned now q c' →
      Pruned now q s { s with cache := some c' }

variable {s s' : Store} {limit : Option Nat} {now later : Nat} {q q' : Query}
  {answer : Option String}

theorem consult_eq_some_iff : (s.consult now q).1 = some answer ↔ s.Remembers now q answer := by
  rw [consult, Remembers]
  cases hc : s.cache with
  | none => simp
  | some c => simp [Cache.consult_eq_some_iff]

theorem knows_iff : s.Knows now q ↔ ∃ answer, s.Remembers now q answer := by
  constructor
  · rintro ⟨c, hc, hknows⟩
    obtain ⟨answer, h⟩ := Cache.knows_iff.mp hknows
    exact ⟨answer, c, hc, h⟩
  · rintro ⟨answer, c, hc, h⟩
    exact ⟨c, hc, Cache.knows_iff.mpr ⟨answer, h⟩⟩

theorem consult_eq_none_iff : (s.consult now q).1 = none ↔ ¬ s.Knows now q := by
  rw [knows_iff, Option.eq_none_iff_forall_ne_some, not_exists]
  exact forall_congr' fun answer => not_congr consult_eq_some_iff

theorem pruned_consult (h : (s.consult now q).1 = none) : s.Pruned now q (s.consult now q).2 := by
  rw [consult] at h ⊢
  cases hc : s.cache with
  | none => exact .uncached hc
  | some c =>
      rw [hc] at h
      exact .cached hc (Cache.pruned_consult h)

theorem Pruned.consult_eq (h : s.Pruned now q s') (hle : now ≤ later) (q' : Query) :
    (s'.consult later q').1 = (s.consult later q').1 := by
  cases h with
  | uncached _ => rfl
  | cached hc hpruned =>
      rw [consult, consult, hc]
      exact hpruned.consult_eq hle q'

theorem remembers_remember {c : Cache} (h : s.cache = some c) (time : Nat)
    (answer' : Option String) :
    (s.remember time q answer).Remembers now q answer' ↔
      answer' = answer ∧ now ≤ time + c.settings.life answer := by
  rw [← consult_eq_some_iff, consult_remember h]
  by_cases hle : now ≤ time + c.settings.life answer <;> simp [hle, eq_comm]

/-! ### Calls -/

theorem query_asked_of_knows (h : s.Knows now q) : (s.query limit now q).store.asked = s.asked := by
  obtain ⟨answer, hanswer⟩ := knows_iff.mp h
  rw [query_of_remembered (consult_eq_some_iff.mpr hanswer)]
  exact consult_asked

theorem query_asked_of_not_knows (h : ¬ s.Knows now q) :
    (s.query limit now q).store.asked = s.asked + 1 := by
  rw [query_of_forgotten (consult_eq_none_iff.mpr h), ask_asked, consult_asked]

theorem query_of_ok (h : ¬ s.Knows now q) (hin : inTime s.backend.delay limit)
    (hanswer : s.backend.answer q = .ok answer) :
    s.query limit now q = ⟨some (.ok answer),
      (s.consult now q).2.asking.remember (now + s.backend.delay) q answer,
      now + s.backend.delay⟩ := by
  have hbackend : (s.consult now q).2.backend = s.backend := consult_backend
  rw [← hbackend] at hin hanswer
  rw [query_of_forgotten (consult_eq_none_iff.mpr h), ask_of_ok hin hanswer, hbackend]

theorem query_of_error {err : StoreError} (h : ¬ s.Knows now q)
    (hin : inTime s.backend.delay limit) (herr : s.backend.answer q = .error err) :
    s.query limit now q =
      ⟨some (.error err), (s.consult now q).2.asking, now + s.backend.delay⟩ := by
  have hbackend : (s.consult now q).2.backend = s.backend := consult_backend
  rw [← hbackend] at hin herr
  rw [query_of_forgotten (consult_eq_none_iff.mpr h), ask_of_error hin herr, hbackend]

theorem query_of_late (h : ¬ s.Knows now q) (hlate : inTime s.backend.delay limit = false) :
    s.query limit now q = ⟨none, (s.consult now q).2.asking, now + limit.getD 0⟩ := by
  have hbackend : (s.consult now q).2.backend = s.backend := consult_backend
  rw [← hbackend] at hlate
  rw [query_of_forgotten (consult_eq_none_iff.mpr h), ask_of_late hlate]

theorem not_knows_of_unanswered (h : ∀ answer, (s.query limit now q).answer? ≠ some (.ok answer)) :
    ¬ s.Knows now q := by
  intro hknows
  obtain ⟨answer, hanswer⟩ := knows_iff.mp hknows
  apply h answer
  rw [query_of_remembered (consult_eq_some_iff.mpr hanswer)]

/-- A call without an answer asks the backend and leaves nothing but that expired entries for its
query may be gone. -/
theorem pruned_of_unanswered (h : ∀ answer, (s.query limit now q).answer? ≠ some (.ok answer)) :
    ∃ p, s.Pruned now q p ∧ (s.query limit now q).store = p.asking := by
  have hknows := not_knows_of_unanswered h
  refine ⟨(s.consult now q).2, pruned_consult (consult_eq_none_iff.mpr hknows), ?_⟩
  cases hin : inTime s.backend.delay limit with
  | false => rw [query_of_late hknows hin]
  | true =>
      cases hanswer : s.backend.answer q with
      | error err => rw [query_of_error hknows hin hanswer]
      | ok answer =>
          apply absurd _ (h answer)
          rw [query_of_ok hknows hin hanswer]

end Store

/-! ### Lookups -/

namespace StoreState

variable {st : StoreState} {timeout : Nat} {id : String} {s : Store} {q : Query}

theorem query_snd (h : st.stores.resolve id = some s) :
    (st.query timeout id q).2 =
      ⟨st.stores.update id (s.query (some timeout) st.now q).store,
        (s.query (some timeout) st.now q).now⟩ := by
  rw [query, h]

/-- A lookup leaves its store as the call to it does, and the others as they were. -/
theorem resolve_query (h : st.stores.resolve id = some s) (other : String) :
    (st.query timeout id q).2.stores.resolve other =
      if other = id then some (s.query (some timeout) st.now q).store
      else st.stores.resolve other := by
  rw [query_snd h]
  exact Table.find?_insert _ _ _ _

end StoreState
end EnvelopeRules
