import EnvelopeRules.Proofs.Store.Retention

/-!
# The entries of a cache

A cache has at most one entry for a query, a member or a miss.  It has no more entries of a kind
than its capacity, and none of them outlasts an answer that is remembered now.  So when a member has
expired, there is no miss that could be answered in its place.
-/

namespace EnvelopeRules

/-! ## Recent answers -/

namespace Recent

variable {α : Type} {l l' : Recent α} {validUntil : α → Nat} {now : Nat} {q r : Query}

theorem mem_without_iff {qs : List Query} : r ∈ without q qs ↔ r ≠ q ∧ r ∈ qs := by
  simp [without, and_comm]

/-- A look for a query moves or drops queries and brings no new one. -/
theorem Touched.subperm (h : Touched validUntil now q l l') :
    List.Subperm l'.queries l.queries := by
  have hwithout : List.Subperm (without q l.queries) l.queries := List.filter_sublist.subperm
  cases h with
  | same => exact List.Subperm.refl _
  | used =>
      cases hfind : l.find? q with
      | none => rw [use, hfind]
      | some a =>
          -- The query comes to the front, and none of what follows it is for the query again.
          have hmem : q ∈ l.queries := exists_find?_iff.mp ⟨a, hfind⟩
          have hnot : q ∉ without q l.queries := by simp [without]
          rw [queries_use hfind]
          exact List.cons_subperm_of_not_mem_of_mem hnot hmem hwithout
  | dropped _ _ =>
      rw [queries_erase]
      exact hwithout

end Recent

/-! ## Caches -/

namespace Cache

variable {c : Cache} {now : Nat} {q r : Query} {answer : Option String} {kind : Bool}

theorem subperm_queries_consult (c : Cache) (now : Nat) (q : Query) (kind : Bool) :
    List.Subperm ((c.consult now q).2.queries kind) (c.queries kind) := by
  obtain ⟨_, _, hmembers, hmisses⟩ := c.consult_eq now q
  cases kind with
  | true => exact hmembers.subperm
  | false => exact hmisses.subperm

/-- Remembering an answer brings no entry for another query, and none of the other kind. -/
theorem mem_queries_of_remember (h : r ∈ (c.remember now q answer).queries kind) :
    r = q ∧ answer.isSome = kind ∨ r ≠ q ∧ r ∈ c.queries kind := by
  rw [queries_remember] at h
  by_cases hkind : answer.isSome = kind
  · rw [if_pos hkind] at h
    rcases List.mem_cons.mp (List.mem_of_mem_take h) with hr | hr
    · exact .inl ⟨hr, hkind⟩
    · exact .inr (Recent.mem_without_iff.mp hr)
  · rw [if_neg hkind] at h
    exact .inr (Recent.mem_without_iff.mp h)

/-! ### No query with two answers -/

/-- Whether no query is remembered both with a member and with a miss. -/
def Apart (c : Cache) : Prop := ∀ q, q ∈ c.queries true → q ∉ c.queries false

theorem apart_clear (c : Cache) : c.clear.Apart := by
  intro q hmember
  cases hmember

theorem Apart.consult (h : c.Apart) (now : Nat) (q : Query) : (c.consult now q).2.Apart := by
  intro r hmember hmiss
  have hmember' : r ∈ c.queries true := (c.subperm_queries_consult now q true).subset hmember
  exact h r hmember' ((c.subperm_queries_consult now q false).subset hmiss)

/-- A new answer is the only one to its query, since it removes what it contradicts. -/
theorem Apart.remember (h : c.Apart) (now : Nat) (q : Query) (answer : Option String) :
    (c.remember now q answer).Apart := by
  intro r hmember hmiss
  rcases mem_queries_of_remember hmember with ⟨hr, hfound⟩ | ⟨hne, hmember⟩
  · rcases mem_queries_of_remember hmiss with ⟨_, hnone⟩ | ⟨hne, _⟩
    · cases hfound.symm.trans hnone
    · exact hne hr
  · rcases mem_queries_of_remember hmiss with ⟨hr, _⟩ | ⟨_, hmiss⟩
    · exact hne hr
    · exact h r hmember hmiss

/-- A member that has expired is dropped, and nothing is answered in its place. -/
theorem Apart.consult_of_expired (h : c.Apart) {member : String} {validUntil : Nat}
    (hfind : c.members.find? q = some (member, validUntil)) (hlt : validUntil < now) :
    c.consult now q = (none, { c with members := c.members.erase q }) := by
  have hmember : q ∈ c.queries true := Recent.exists_find?_iff.mp ⟨_, hfind⟩
  -- The query is then not among the misses, so the look there is in vain as well.
  have hmiss : c.misses.find? q = none := by
    rw [Option.eq_none_iff_forall_ne_some]
    intro validUntil' hfind'
    exact h q hmember (Recent.exists_find?_iff.mp ⟨validUntil', hfind'⟩)
  rw [Cache.consult, hfind]
  dsimp only
  rw [if_neg (Nat.not_le_of_lt hlt), consultMiss, hmiss]

/-- A miss beside a member would come to light when the member has expired. -/
example :
    (consult ⟨⟨1, 5, 9, Nat.one_pos⟩, [(.any, ("a", 5))], [(.any, 9)]⟩ 6 .any).1 = some none :=
  rfl

/-! ### Room and time -/

/-- Whether there is room for the answers of either kind. -/
def Fits (c : Cache) : Prop := ∀ kind, (c.queries kind).length ≤ c.settings.capacity

theorem fits_clear (c : Cache) : c.clear.Fits := by
  intro kind
  cases kind <;> exact Nat.zero_le _

theorem Fits.consult (h : c.Fits) (now : Nat) (q : Query) : (c.consult now q).2.Fits := by
  intro kind
  rw [(c.consult_eq now q).2.1]
  exact (c.subperm_queries_consult now q kind).length_le.trans (h kind)

theorem Fits.remember (h : c.Fits) (now : Nat) (q : Query) (answer : Option String) :
    (c.remember now q answer).Fits := by
  intro kind
  rw [queries_remember, settings_remember]
  split
  · exact List.length_take_le _ _
  · exact (List.length_filter_le _ _).trans (h kind)

/-- Whether no answer is valid for longer than if it were remembered at a time. -/
def Timely (c : Cache) (now : Nat) : Prop :=
  c.All fun _ answer validUntil => validUntil ≤ now + c.settings.life answer

theorem Timely.later (h : c.Timely now) (ms : Nat) : c.Timely (now + ms) := by
  refine h.mono fun _ answer validUntil hle => ?_
  exact hle.trans (Nat.add_le_add_right (Nat.le_add_right now ms) _)

theorem Timely.consult (h : c.Timely now) (q : Query) : (c.consult now q).2.Timely now := by
  rw [Timely, (c.consult_eq now q).2.1]
  exact All.consult h now q

theorem Timely.remember (h : c.Timely now) (q : Query) (answer : Option String) :
    (c.remember now q answer).Timely now := by
  rw [Timely, settings_remember]
  exact All.remember h (Nat.le_refl _) fun _ _ _ _ hle => hle

/-! ### Caches in use -/

namespace InUse

/-- Whether a cache has one entry at most for each query, no more of a kind than there is room for,
and none that outlasts an answer remembered now. -/
structure Orderly (u : InUse) (settings : CacheSettings) : Prop extends u.Sound settings where
  apart : u.cache.Apart
  fits : u.cache.Fits
  timely : u.cache.Timely u.now

variable {u : InUse} {settings : CacheSettings}

theorem orderly_start (settings : CacheSettings) (now : Nat) :
    (start settings now).Orderly settings :=
  ⟨sound_start settings now, apart_clear (.empty settings), fits_clear (.empty settings),
    all_empty settings⟩

theorem Orderly.step (h : u.Orderly settings) (call : Call) : (u.step call).Orderly settings := by
  have hsound : (u.step call).Sound settings := h.toSound.step call
  cases call with
  | consult q => exact ⟨hsound, h.apart.consult u.now q, h.fits.consult u.now q, h.timely.consult q⟩
  | remember q answer =>
      exact ⟨hsound, h.apart.remember u.now q answer, h.fits.remember u.now q answer,
        h.timely.remember q answer⟩
  | clear => exact ⟨hsound, apart_clear u.cache, fits_clear u.cache, all_clear u.cache⟩
  | wait ms => exact ⟨hsound, h.apart, h.fits, h.timely.later ms⟩

theorem Orderly.after (h : u.Orderly settings) (calls : List Call) :
    (u.after calls).Orderly settings := by
  induction calls generalizing u with
  | nil => exact h
  | cons call calls ih => exact ih (h.step call)

/-- Whatever a cache is used for, its entries are in order, and a look that comes upon an expired
member finds no answer and drops just this member. -/
theorem orderly_after (settings : CacheSettings) (now : Nat) (calls : List Call) :
    let u := (start settings now).after calls
    u.Orderly settings ∧
      ∀ q member validUntil, u.cache.members.find? q = some (member, validUntil) →
        validUntil < u.now →
        u.cache.consult u.now q = (none, { u.cache with members := u.cache.members.erase q }) := by
  intro u
  have horderly : u.Orderly settings := (orderly_start settings now).after calls
  exact ⟨horderly, fun _ _ _ hfind hlt => horderly.apart.consult_of_expired hfind hlt⟩

/-- A member takes the place of a miss; another member and a miss follow, and the first member
expires. -/
def outlived : InUse :=
  (start ⟨2, 5, 9, Nat.le_add_left 1 1⟩ 0).after
    [.remember .any none, .remember .any (some "a"), .wait 2, .remember (.key "b") (some "b"),
      .remember (.key "c") none, .wait 4]

/-- The miss would still be valid when the member has expired, but is gone. -/
theorem orderly_after_outlived :
    outlived.cache.members.find? .any = some ("a", 5) ∧ outlived.now = 6 ∧
      (outlived.cache.consult 6 .any).1 = none ∧
      (outlived.cache.consult 6 .any).2.queries true = [.key "b"] ∧
      (outlived.cache.consult 6 .any).2.queries false = [.key "c"] := by
  have hexpired := (orderly_after ⟨2, 5, 9, Nat.le_add_left 1 1⟩ 0
    [.remember .any none, .remember .any (some "a"), .wait 2, .remember (.key "b") (some "b"),
      .remember (.key "c") none, .wait 4]).2 .any "a" 5 rfl (by decide)
  have hconsult : outlived.cache.consult 6 .any =
      (none, { outlived.cache with members := outlived.cache.members.erase .any }) := hexpired
  rw [hconsult]
  exact ⟨rfl, rfl, rfl, rfl, rfl⟩

end InUse
end Cache
end EnvelopeRules
