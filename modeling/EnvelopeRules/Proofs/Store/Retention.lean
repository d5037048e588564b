import EnvelopeRules.Proofs.Store.Staleness
import Mathlib.Data.Finset.Card

/-!
# What a cache does not forget

A cache keeps an answer as long as fewer other queries than its capacity were used since with an
answer of the same kind.  Members never make it forget misses, and misses never make it forget
members.
-/

namespace EnvelopeRules

/-! ## Queries in the order of use -/

namespace Recent

/-- The queries with an answer, the most recently used first. -/
def queries {α : Type} (l : Recent α) : List Query := l.map Prod.fst

def without (q : Query) (qs : List Query) : List Query := qs.filter fun r => r ≠ q

/-- Whether a query is among some, and all before it are rivals. -/
def Near (rivals : Finset Query) (q : Query) (qs : List Query) : Prop :=
  ∃ ahead behind, qs = ahead ++ q :: behind ∧ ∀ r ∈ ahead, r ∈ rivals

variable {α : Type} {l : Recent α} {rivals rivals' : Finset Query} {q r : Query} {qs : List Query}

theorem queries_erase (l : Recent α) (q : Query) : (l.erase q).queries = without q l.queries := by
  rw [erase, queries, without, queries, List.filter_map]
  rfl

theorem queries_put (capacity : Nat) (l : Recent α) (q : Query) (a : α) :
    (l.put capacity q a).queries = (q :: without q l.queries).take capacity := by
  rw [put, queries, List.map_take, List.map_cons, ← queries_erase]
  rfl

theorem queries_use {a : α} (h : l.find? q = some a) :
    (l.use q).queries = q :: without q l.queries := by
  rw [use, h, ← queries_erase]
  rfl

theorem exists_find?_iff : (∃ a, l.find? q = some a) ↔ q ∈ l.queries := by
  induction l with
  | nil => simp [find?, queries]
  | cons x l ih =>
      rw [find?_cons, queries, List.map_cons, List.mem_cons]
      by_cases hx : x.1 = q
      · simp [hx]
      · rw [if_neg hx, ih]
        simp [queries, Ne.symm hx]

theorem nodup_without (h : qs.Nodup) (q : Query) : (without q qs).Nodup := h.filter _

theorem nodup_cons_without (h : qs.Nodup) (q : Query) : (q :: without q qs).Nodup :=
  List.nodup_cons.mpr ⟨by simp [without], nodup_without h q⟩

theorem near_self (rivals : Finset Query) (q : Query) (qs : List Query) : Near rivals q (q :: qs) :=
  ⟨[], qs, rfl, by simp⟩

theorem Near.mem (h : Near rivals q qs) : q ∈ qs := by
  obtain ⟨ahead, behind, rfl, _⟩ := h
  simp

theorem Near.mono (h : Near rivals q qs) (hsub : rivals ⊆ rivals') : Near rivals' q qs := by
  obtain ⟨ahead, behind, hqs, hahead⟩ := h
  exact ⟨ahead, behind, hqs, fun r hr => hsub (hahead r hr)⟩

theorem Near.cons (h : Near rivals q qs) (hr : r ∈ rivals) : Near rivals q (r :: qs) := by
  obtain ⟨ahead, behind, rfl, hahead⟩ := h
  exact ⟨r :: ahead, behind, rfl, List.forall_mem_cons.mpr ⟨hr, hahead⟩⟩

theorem Near.without (h : Near rivals q qs) (hr : r ≠ q) : Near rivals q (without r qs) := by
  obtain ⟨ahead, behind, rfl, hahead⟩ := h
  refine ⟨Recent.without r ahead, Recent.without r behind, ?_, ?_⟩
  · simp [Recent.without, Ne.symm hr]
  · intro r' hr'
    exact hahead r' (List.mem_filter.mp hr').1

/-- A query that is used comes to stand before the others, as a rival of them. -/
theorem Near.use (h : Near rivals q qs) (hr : r ≠ q) :
    Near (insert r rivals) q (r :: Recent.without r qs) :=
  ((h.without hr).mono (Finset.subset_insert r rivals)).cons (Finset.mem_insert_self r rivals)

/-- With fewer rivals than there is room for, a query is not what has to go. -/
theorem Near.take {capacity : Nat} (h : Near rivals q qs) (hnodup : qs.Nodup)
    (hcard : rivals.card < capacity) : Near rivals q (qs.take capacity) := by
  obtain ⟨ahead, behind, rfl, hahead⟩ := h
  have hsub : ahead.toFinset ⊆ rivals := fun r hr => hahead r (List.mem_toFinset.mp hr)
  have hlength : ahead.length ≤ rivals.card := by
    rw [← List.toFinset_card_of_nodup (List.nodup_append.mp hnodup).1]
    exact Finset.card_le_card hsub
  obtain ⟨n, rfl⟩ : ∃ n, capacity = ahead.length + (n + 1) :=
    ⟨capacity - ahead.length - 1, by omega⟩
  refine ⟨ahead, behind.take n, ?_, hahead⟩
  rw [List.take_length_add_append, List.take_succ_cons]

end Recent

/-! ## Operations of a cache -/

namespace Cache

open Recent (queries without Near)

/-- The queries with a remembered member, or those with a remembered miss. -/
def queries (c : Cache) : Bool → List Query
  | true => c.members.queries
  | false => c.misses.queries

/-- What a look for a query makes of the queries of one kind, by whether it finds an answer of this
kind. -/
inductive Looked (q : Query) (qs : List Query) : Bool → List Query → Prop
  | found : Looked q qs true (q :: without q qs)
  | same : Looked q qs false qs
  | dropped : Looked q qs false (without q qs)

theorem Looked.eq_of_found {q : Query} {qs qs' : List Query} (h : Looked q qs true qs') :
    qs' = q :: without q qs := by
  cases h
  rfl

theorem Looked.near {rivals : Finset Query} {q r : Query} {qs qs' : List Query}
    (h : Looked r qs false qs') (hnear : Near rivals q qs) (hr : r ≠ q) : Near rivals q qs' := by
  cases h with
  | same => exact hnear
  | dropped => exact hnear.without hr

/-- Whether a look found an answer of a kind. -/
def finds (found : Option (Option String)) (kind : Bool) : Bool :=
  found.any fun answer => answer.isSome == kind

theorem looked_consultMiss (c : Cache) (now : Nat) (q : Query) :
    Looked q c.misses.queries (finds (c.consultMiss now q).1 false)
        (c.consultMiss now q).2.misses.queries ∧
      finds (c.consultMiss now q).1 true = false ∧
      (c.consultMiss now q).2.members = c.members := by
  rw [consultMiss]
  cases hq : c.misses.find? q with
  | none => exact ⟨.same, rfl, rfl⟩
  | some validUntil =>
      dsimp only
      split
      · refine ⟨?_, rfl, rfl⟩
        rw [Recent.queries_use hq]
        exact .found
      · refine ⟨?_, rfl, rfl⟩
        rw [Recent.queries_erase]
        exact .dropped

theorem looked_consult (c : Cache) (now : Nat) (q : Query) (kind : Bool) :
    Looked q (c.queries kind) (finds (c.consult now q).1 kind)
      ((c.consult now q).2.queries kind) := by
  rw [consult]
  cases hq : c.members.find? q with
  | none =>
      obtain ⟨hmisses, hfinds, hmembers⟩ := c.looked_consultMiss now q
      cases kind with
      | true =>
          dsimp only [Cache.queries]
          rw [hfinds, hmembers]
          exact .same
      | false => exact hmisses
  | some a =>
      dsimp only
      split
      · cases kind with
        | true =>
            dsimp only [Cache.queries]
            rw [Recent.queries_use hq]
            exact .found
        | false => exact .same
      · obtain ⟨hmisses, hfinds, hmembers⟩ :=
          looked_consultMiss { c with members := c.members.erase q } now q
        cases kind with
        | true =>
            dsimp only [Cache.queries]
            rw [hfinds, hmembers, Recent.queries_erase]
            exact .dropped
        | false => exact hmisses

theorem queries_remember (c : Cache) (now : Nat) (q : Query) (answer : Option String)
    (kind : Bool) :
    (c.remember now q answer).queries kind =
      if answer.isSome = kind then (q :: without q (c.queries kind)).take c.settings.capacity
      else without q (c.queries kind) := by
  cases answer <;> cases kind <;>
    simp [Cache.remember, Cache.queries, Recent.queries_put, Recent.queries_erase]

/-- Whether no query is remembered twice with answers of one kind. -/
def Distinct (c : Cache) : Prop := ∀ kind, (c.queries kind).Nodup

variable {c : Cache} {q : Query} {answer : Option String} {now validUntil : Nat}

theorem Looked.nodup {qs qs' : List Query} {found : Bool} (h : Looked q qs found qs')
    (hnodup : qs.Nodup) : qs'.Nodup := by
  cases h with
  | found => exact Recent.nodup_cons_without hnodup q
  | same => exact hnodup
  | dropped => exact Recent.nodup_without hnodup q

theorem Distinct.consult (h : c.Distinct) (now : Nat) (q : Query) : (c.consult now q).2.Distinct :=
  fun kind => (c.looked_consult now q kind).nodup (h kind)

theorem Distinct.remember (h : c.Distinct) (now : Nat) (q : Query) (answer : Option String) :
    (c.remember now q answer).Distinct := by
  intro kind
  rw [queries_remember]
  split
  · exact (Recent.nodup_cons_without (h kind) q).sublist (List.take_sublist _ _)
  · exact Recent.nodup_without (h kind) q

theorem distinct_clear (c : Cache) : c.clear.Distinct := by
  intro kind
  cases kind <;> exact List.nodup_nil

/-- Whether a query is remembered with no answer but one, if at all. -/
def Only (c : Cache) (q : Query) (answer : Option String) (validUntil : Nat) : Prop :=
  c.All fun q' answer' validUntil' => q' = q → answer' = answer ∧ validUntil' = validUntil

/-- The only answer to a query that is remembered is found as long as it is valid. -/
theorem Only.consult_eq (h : c.Only q answer validUntil) (hmem : q ∈ c.queries answer.isSome)
    (hle : now ≤ validUntil) : (c.consult now q).1 = some answer := by
  rw [(c.consult_eq now q).1]
  cases answer with
  | some member =>
      obtain ⟨⟨member', until'⟩, hfind⟩ := Recent.exists_find?_iff.mpr hmem
      obtain ⟨he, rfl⟩ := h.members (Recent.mem_of_find? hfind) rfl
      cases he
      simp [Recent.valid?, hfind, Option.filter_some, hle]
  | none =>
      obtain ⟨until', hfind⟩ := Recent.exists_find?_iff.mpr hmem
      obtain ⟨_, rfl⟩ := h.misses (Recent.mem_of_find? hfind) rfl
      have hnone : c.members.find? q = none := by
        rw [Option.eq_none_iff_forall_ne_some]
        intro a ha
        cases (h.members (Recent.mem_of_find? ha) rfl).1
      simp [Recent.valid?, hnone, hfind, Option.filter_some, hle]

/-! ## A cache in use -/

/-- What may be done with a cache. -/
inductive Call where
  | consult (q : Query)
  | remember (q : Query) (answer : Option String)
  | clear
  | wait (ms : Nat)
  deriving DecidableEq

/-- A cache in use, with the answers that were remembered or found so far, the latest first. -/
structure InUse where
  cache : Cache
  now : Nat
  used : List (Query × Option String)

namespace InUse

def start (settings : CacheSettings) (now : Nat) : InUse := ⟨.empty settings, now, []⟩

def step (u : InUse) : Call → InUse
  | .consult q =>
    let r := u.cache.consult u.now q
    ⟨r.2, u.now, (r.1.map fun answer => (q, answer)).toList ++ u.used⟩
  | .remember q answer => ⟨u.cache.remember u.now q answer, u.now, (q, answer) :: u.used⟩
  | .clear => { u with cache := u.cache.clear }
  | .wait ms => { u with now := u.now + ms }

def after (u : InUse) (calls : List Call) : InUse := calls.foldl step u

/-- The answers to other queries since a query was last used. -/
def since (used : List (Query × Option String)) (q : Query) : List (Query × Option String) :=
  used.takeWhile fun use => use.1 ≠ q

/-- The other queries that were used with an answer of a kind since a query was last used. -/
def rivals (used : List (Query × Option String)) (q : Query) (kind : Bool) : Finset Query :=
  (((since used q).filter fun use => use.2.isSome == kind).map Prod.fst).toFinset

theorem rivals_cons {q r : Query} (h : r ≠ q) (used : List (Query × Option String))
    (answer : Option String) (kind : Bool) :
    rivals ((r, answer) :: used) q kind =
      if answer.isSome = kind then insert r (rivals used q kind) else rivals used q kind := by
  by_cases hkind : answer.isSome = kind <;> simp [rivals, since, h, hkind]

theorem now_le_step (u : InUse) (call : Call) : u.now ≤ (u.step call).now := by
  cases call with
  | wait ms => exact Nat.le_add_right _ _
  | _ => exact Nat.le_refl _

theorem now_le_after (u : InUse) (calls : List Call) : u.now ≤ (u.after calls).now := by
  induction calls generalizing u with
  | nil => exact Nat.le_refl _
  | cons call calls ih => exact (u.now_le_step call).trans (ih (u.step call))

/-! ### What holds all the time -/

/-- Whether a cache has its settings and remembers no query twice. -/
structure Sound (u : InUse) (settings : CacheSettings) : Prop where
  same : u.cache.settings = settings
  distinct : u.cache.Distinct

variable {u : InUse} {settings : CacheSettings} {q : Query} {answer : Option String}
  {validUntil : Nat}

theorem sound_start (settings : CacheSettings) (now : Nat) : (start settings now).Sound settings :=
  ⟨rfl, distinct_clear (.empty settings)⟩

theorem Sound.step (h : u.Sound settings) (call : Call) : (u.step call).Sound settings := by
  cases call with
  | consult q => exact ⟨(u.cache.consult_eq u.now q).2.1.trans h.same, h.distinct.consult u.now q⟩
  | remember q answer =>
      exact ⟨(u.cache.settings_remember u.now q answer).trans h.same,
        h.distinct.remember u.now q answer⟩
  | clear => exact ⟨h.same, distinct_clear u.cache⟩
  | wait ms => exact ⟨h.same, h.distinct⟩

theorem Sound.after (h : u.Sound settings) (calls : List Call) :
    (u.after calls).Sound settings := by
  induction calls generalizing u with
  | nil => exact h
  | cons call calls ih => exact ih (h.step call)

/-! ### What holds since an answer was remembered -/

/-- Whether a query is remembered with no answer but one, and not behind its rivals as long as these
are fewer than there is room for. -/
structure Retains (u : InUse) (settings : CacheSettings) (q : Query) (answer : Option String)
    (validUntil : Nat) : Prop where
  sound : u.Sound settings
  only : u.cache.Only q answer validUntil
  near : (rivals u.used q answer.isSome).card < settings.capacity →
    Near (rivals u.used q answer.isSome) q (u.cache.queries answer.isSome)

theorem lt_of_insert {r : Query} {rivals : Finset Query} {n : Nat}
    (h : (insert r rivals).card < n) : rivals.card < n :=
  (Finset.card_le_card (Finset.subset_insert r rivals)).trans_lt h

theorem Sound.retains (h : u.Sound settings) (q : Query) (answer : Option String) :
    (u.step (.remember q answer)).Retains settings q answer (u.now + settings.life answer) := by
  have hall : u.cache.All fun _ _ _ => True := ⟨fun _ => trivial, fun _ => trivial⟩
  refine ⟨h.step _, ?_, fun _ => ?_⟩
  · apply hall.remember
    · rw [h.same]
      exact fun _ => ⟨rfl, rfl⟩
    · intro q' answer' validUntil' hne _ heq
      exact absurd heq hne
  · obtain ⟨n, hn⟩ := Nat.exists_eq_add_of_lt u.cache.settings.capacity_pos
    dsimp only [InUse.step]
    rw [queries_remember, if_pos rfl, hn, List.take_succ_cons]
    exact Recent.near_self _ _ _

theorem Retains.consult_eq (h : u.Retains settings q answer validUntil)
    (hcard : (rivals u.used q answer.isSome).card < settings.capacity) (hle : u.now ≤ validUntil) :
    (u.cache.consult u.now q).1 = some answer :=
  h.only.consult_eq (h.near hcard).mem hle

/-- A look for the query itself finds its answer, or nothing if there were too many rivals. -/
theorem Retains.consult_self (h : u.Retains settings q answer validUntil)
    (hle : u.now ≤ validUntil) :
    (u.step (.consult q)).Retains settings q answer validUntil := by
  refine ⟨h.sound.step _, h.only.consult u.now q, ?_⟩
  have hlooked := u.cache.looked_consult u.now q answer.isSome
  dsimp only [InUse.step]
  cases hfound : (u.cache.consult u.now q).1 with
  | none =>
      -- The rivals are still the same, and with few of them the answer would have been found.
      intro hcard
      cases hfound.symm.trans (h.consult_eq hcard hle)
  | some found =>
      -- It may be found although there were many rivals; now there are none.
      intro _
      obtain ⟨_, _, hvalid⟩ := h.only.of_consult hfound
      obtain ⟨rfl, _⟩ := hvalid rfl
      have hfinds : finds (some found) found.isSome = true := beq_self_eq_true _
      rw [hfound, hfinds] at hlooked
      rw [hlooked.eq_of_found]
      exact Recent.near_self _ _ _

/-- A look for another query makes it a rival only if it finds an answer of the same kind. -/
theorem Retains.consult_other (h : u.Retains settings q answer validUntil) {r : Query}
    (hr : r ≠ q) : (u.step (.consult r)).Retains settings q answer validUntil := by
  refine ⟨h.sound.step _, h.only.consult u.now r, ?_⟩
  have hlooked := u.cache.looked_consult u.now r answer.isSome
  dsimp only [InUse.step]
  cases hfound : (u.cache.consult u.now r).1 with
  | none =>
      intro hcard
      rw [hfound] at hlooked
      exact hlooked.near (h.near hcard) hr
  | some found =>
      rw [hfound] at hlooked
      simp only [Option.map_some, Option.toList_some, List.singleton_append, rivals_cons hr]
      by_cases hkind : found.isSome = answer.isSome
      · have hfinds : finds (some found) answer.isSome = true := beq_iff_eq.mpr hkind
        rw [hfinds] at hlooked
        rw [if_pos hkind, hlooked.eq_of_found]
        intro hcard
        exact (h.near (lt_of_insert hcard)).use hr
      · have hfinds : finds (some found) answer.isSome = false := beq_eq_false_iff_ne.mpr hkind
        rw [hfinds] at hlooked
        rw [if_neg hkind]
        intro hcard
        exact hlooked.near (h.near hcard) hr

/-- An answer to another query drives the query back only if it is of the same kind. -/
theorem Retains.remember_other (h : u.Retains settings q answer validUntil) {r : Query}
    (hr : r ≠ q) (other : Option String) :
    (u.step (.remember r other)).Retains settings q answer validUntil := by
  refine ⟨h.sound.step _, ?_, ?_⟩
  · apply h.only.remember
    · intro heq
      exact absurd heq hr
    · exact fun _ _ _ _ hvalid => hvalid
  · dsimp only [InUse.step]
    rw [queries_remember, rivals_cons hr, h.sound.same]
    by_cases hkind : other.isSome = answer.isSome
    · rw [if_pos hkind, if_pos hkind]
      intro hcard
      have hnear := (h.near (lt_of_insert hcard)).use hr
      exact hnear.take (Recent.nodup_cons_without (h.sound.distinct _) r) hcard
    · rw [if_neg hkind, if_neg hkind]
      intro hcard
      exact (h.near hcard).without hr

theorem Retains.step (h : u.Retains settings q answer validUntil) {call : Call}
    (hclear : call ≠ .clear) (honly : ∀ other, call ≠ .remember q other)
    (hle : u.now ≤ validUntil) :
    (u.step call).Retains settings q answer validUntil := by
  cases call with
  | consult r =>
      rcases eq_or_ne r q with rfl | hr
      · exact h.consult_self hle
      · exact h.consult_other hr
  | remember r other =>
      have hr : r ≠ q := fun hr => honly other (hr ▸ rfl)
      exact h.remember_other hr other
  | clear => exact absurd rfl hclear
  | wait ms => exact ⟨h.sound.step _, h.only, h.near⟩

theorem Retains.after (h : u.Retains settings q answer validUntil) {calls : List Call}
    (hclear : .clear ∉ calls) (honly : ∀ other, .remember q other ∉ calls)
    (hle : (u.after calls).now ≤ validUntil) :
    (u.after calls).Retains settings q answer validUntil := by
  induction calls generalizing u with
  | nil => exact h
  | cons call calls ih =>
      have hstep : (u.step call).now ≤ validUntil := ((u.step call).now_le_after calls).trans hle
      have hnow : u.now ≤ validUntil := (u.now_le_step call).trans hstep
      apply ih
      · apply h.step
        · exact fun he => hclear (he ▸ List.mem_cons_self)
        · exact fun other he => honly other (he ▸ List.mem_cons_self)
        · exact hnow
      · exact fun hmem => hclear (List.mem_cons_of_mem _ hmem)
      · exact fun other hmem => honly other (List.mem_cons_of_mem _ hmem)
      · exact hle

theorem rivals_eq_empty {used : List (Query × Option String)} {q : Query} {kind : Bool}
    (h : ∀ use ∈ since used q, use.2.isSome ≠ kind) : rivals used q kind = ∅ := by
  have hnone : (since used q).filter (fun use => use.2.isSome == kind) = [] := by
    simpa using h
  rw [rivals, hnone]
  rfl

/-- An answer that was remembered is found until its life is over, unless all is forgotten, the
query gets another answer, or as many other queries as there is room for were used since with an
answer of its kind.  So no use with answers of the other kind makes a cache forget it. -/
theorem found_of_few_rivals (settings : CacheSettings) (now : Nat) (before calls : List Call)
    (q : Query) (answer : Option String) (hclear : .clear ∉ calls)
    (honly : ∀ other, .remember q other ∉ calls)
    (hlife : ((start settings now).after (before ++ .remember q answer :: calls)).now ≤
      ((start settings now).after before).now + settings.life answer) :
    let u := (start settings now).after (before ++ .remember q answer :: calls)
    ((rivals u.used q answer.isSome).card < settings.capacity →
      (u.cache.consult u.now q).1 = some answer) ∧
    ((∀ use ∈ since u.used q, use.2.isSome ≠ answer.isSome) →
      (u.cache.consult u.now q).1 = some answer) := by
  intro u
  have hsound := (sound_start settings now).after before
  have hretains : u.Retains settings q answer
      (((start settings now).after before).now + settings.life answer) := by
    have hu : u = (((start settings now).after before).step (.remember q answer)).after calls := by
      simp [u, after]
    rw [hu]
    apply (hsound.retains q answer).after hclear honly
    rwa [← hu]
  refine ⟨fun hcard => hretains.consult_eq hcard hlife, fun hothers => ?_⟩
  apply hretains.consult_eq _ hlife
  rw [rivals_eq_empty hothers, Finset.card_empty]
  exact settings.capacity_pos

/-- Calls after a member `a` was found: two other members, of which one comes before `a` is found
once more, and three misses. -/
def crowding : List Call :=
  [.remember (.key "b") (some "b"), .remember (.key "c") none, .remember (.key "d") none,
    .consult (.key "a"), .remember .any none, .consult .any,
    .remember (.key "e") (some "e"), .wait 5]

def crowded : InUse :=
  (start ⟨2, 5, 5, by decide⟩ 0).after
    ([.remember (.key "b") none] ++ .remember (.key "a") (some "a") :: crowding)

/-- With room for two answers of each kind, the member is found up to the end of its life.  One more
member would make the cache forget it. -/
theorem found_of_few_rivals_crowded :
    crowded.now = 5 ∧ rivals crowded.used (.key "a") true = {.key "e"} ∧
      (crowded.cache.consult 5 (.key "a")).1 = some (some "a") ∧
      ((crowded.step (.remember (.key "f") (some "f"))).cache.consult 5 (.key "a")).1 = none := by
  have hfound := found_of_few_rivals ⟨2, 5, 5, by decide⟩ 0 [.remember (.key "b") none] crowding
    (.key "a") (some "a") (by decide) (by simp [crowding]) (by decide +kernel)
  have hrivals : rivals crowded.used (.key "a") true = {.key "e"} := by decide +kernel
  refine ⟨by decide +kernel, hrivals, ?_, by decide +kernel⟩
  apply hfound.1
  change (rivals crowded.used (.key "a") true).card < 2
  rw [hrivals]
  decide

end InUse
end Cache
end EnvelopeRules
