import EnvelopeRules.Store.Cache

/-!
# How long answers are remembered

An answer stays valid for its lifetime from the moment it was remembered.  Looking for answers moves
them or drops what has expired, so it changes no later answer.
-/

namespace EnvelopeRules

/-! ## Recent answers -/

namespace Recent

variable {α : Type} {l l' : Recent α} {q : Query}

theorem mem_of_find? {a : α} (h : l.find? q = some a) : (q, a) ∈ l := by
  induction l with
  | nil => cases h
  | cons x rest ih =>
      rw [find?] at h
      split at h
      · rename_i hq
        cases h
        exact hq ▸ List.mem_cons_self
      · exact List.mem_cons_of_mem _ (ih h)

theorem mem_erase_iff {x : Query × α} : x ∈ l.erase q ↔ x ∈ l ∧ x.1 ≠ q := by
  simp [erase]

theorem mem_of_mem_use {x : Query × α} (h : x ∈ l.use q) : x ∈ l := by
  rw [use] at h
  split at h
  · rename_i a ha
    rcases List.mem_cons.mp h with rfl | h
    · exact mem_of_find? ha
    · exact (mem_erase_iff.mp h).1
  · exact h

theorem mem_of_mem_put {capacity : Nat} {a : α} {x : Query × α} (h : x ∈ l.put capacity q a) :
    x = (q, a) ∨ x ∈ l ∧ x.1 ≠ q :=
  (List.mem_cons.mp (List.mem_of_mem_take h)).imp_right mem_erase_iff.mp

theorem find?_cons (x : Query × α) (l : Recent α) (q : Query) :
    find? (x :: l) q = if x.1 = q then some x.2 else l.find? q := rfl

theorem find?_erase (l : Recent α) (q q' : Query) :
    (l.erase q).find? q' = if q' = q then none else l.find? q' := by
  induction l with
  | nil => simp [erase, find?]
  | cons x l ih =>
      by_cases hx : x.1 = q
      · have herase : erase (x :: l) q = erase l q := by simp [erase, hx]
        rw [herase, ih, find?_cons, hx]
        split <;> simp_all [eq_comm]
      · have herase : erase (x :: l) q = x :: erase l q := by simp [erase, hx]
        rw [herase, find?_cons, find?_cons, ih]
        split <;> simp_all

theorem find?_use (l : Recent α) (q q' : Query) : (l.use q).find? q' = l.find? q' := by
  rw [use]
  cases hq : l.find? q with
  | none => rfl
  | some a =>
      dsimp only
      rw [find?_cons, find?_erase]
      by_cases hq' : q = q'
      · rw [if_pos hq', ← hq', hq]
      · rw [if_neg hq', if_neg (Ne.symm hq')]

theorem find?_put {capacity : Nat} (h : 0 < capacity) (l : Recent α) (q : Query) (a : α) :
    (l.put capacity q a).find? q = some a := by
  obtain ⟨n, rfl⟩ := Nat.exists_eq_add_of_lt h
  simp [put, find?]

/-- The answer for a query that is valid at a time. -/
def valid? (validUntil : α → Nat) (l : Recent α) (now : Nat) (q : Query) : Option α :=
  (l.find? q).filter fun a => now ≤ validUntil a

/-- What a look for a query may leave of some answers. -/
inductive Touched (validUntil : α → Nat) (now : Nat) (q : Query) (l : Recent α) : Recent α → Prop
  | same : Touched validUntil now q l l
  | used : Touched validUntil now q l (l.use q)
  | dropped {a : α} : l.find? q = some a → validUntil a < now →
      Touched validUntil now q l (l.erase q)

variable {validUntil : α → Nat} {now : Nat}

theorem Touched.mem (h : Touched validUntil now q l l') {x : Query × α} (hx : x ∈ l') : x ∈ l := by
  cases h with
  | same => exact hx
  | used => exact mem_of_mem_use hx
  | dropped _ _ => exact (mem_erase_iff.mp hx).1

/-- A look for a query changes no answer that is valid then or later. -/
theorem Touched.valid? (h : Touched validUntil now q l l') {later : Nat} (hle : now ≤ later)
    (q' : Query) : l'.valid? validUntil later q' = l.valid? validUntil later q' := by
  cases h with
  | same => rfl
  | used => rw [Recent.valid?, Recent.valid?, find?_use]
  | @dropped a ha hlt =>
      rw [Recent.valid?, Recent.valid?, find?_erase]
      split
      · rename_i hq
        have hexpired : ¬ later ≤ validUntil a := by omega
        simp [hq, ha, Option.filter_some, hexpired]
      · rfl

end Recent

/-! ## Caches -/

namespace Cache

theorem consultMiss_eq (c : Cache) (now : Nat) (q : Query) :
    (c.consultMiss now q).1 = (c.misses.valid? id now q).map (fun _ => none) ∧
      (c.consultMiss now q).2.settings = c.settings ∧
      (c.consultMiss now q).2.members = c.members ∧
      Recent.Touched id now q c.misses (c.consultMiss now q).2.misses := by
  rw [Cache.consultMiss, Recent.valid?]
  cases hq : c.misses.find? q with
  | none => exact ⟨rfl, rfl, rfl, .same⟩
  | some validUntil =>
      dsimp only
      by_cases hle : now ≤ validUntil
      · rw [if_pos hle]
        exact ⟨by simp [Option.filter_some, hle], rfl, rfl, .used⟩
      · rw [if_neg hle]
        exact ⟨by simp [Option.filter_some, hle], rfl, rfl, .dropped hq (Nat.lt_of_not_le hle)⟩

/-- A cache answers with a valid member, or else with a valid miss. -/
theorem consult_eq (c : Cache) (now : Nat) (q : Query) :
    (c.consult now q).1 =
        ((c.members.valid? Prod.snd now q).map fun a => some a.1).or
          ((c.misses.valid? id now q).map fun _ => none) ∧
      (c.consult now q).2.settings = c.settings ∧
      Recent.Touched Prod.snd now q c.members (c.consult now q).2.members ∧
      Recent.Touched id now q c.misses (c.consult now q).2.misses := by
  rw [Cache.consult]
  cases hq : c.members.find? q with
  | none =>
      obtain ⟨hanswer, hsettings, hmembers, hmisses⟩ := c.consultMiss_eq now q
      exact ⟨by simp [hanswer, Recent.valid?, hq], hsettings, hmembers ▸ .same, hmisses⟩
  | some a =>
      obtain ⟨member, validUntil⟩ := a
      dsimp only
      by_cases hle : now ≤ validUntil
      · rw [if_pos hle]
        exact ⟨by simp [Recent.valid?, hq, Option.filter_some, hle], rfl, .used, .same⟩
      · rw [if_neg hle]
        obtain ⟨hanswer, hsettings, hmembers, hmisses⟩ :=
          consultMiss_eq { c with members := c.members.erase q } now q
        refine ⟨by simp [hanswer, Recent.valid?, hq, Option.filter_some, hle], hsettings,
          ?_, hmisses⟩
        rw [hmembers]
        exact .dropped hq (Nat.lt_of_not_le hle)

theorem consult_consult (c : Cache) {now later : Nat} (hle : now ≤ later) (q q' : Query) :
    ((c.consult now q).2.consult later q').1 = (c.consult later q').1 := by
  obtain ⟨_, _, hmembers, hmisses⟩ := c.consult_eq now q
  rw [(consult_eq _ later q').1, (c.consult_eq later q').1, hmembers.valid? hle, hmisses.valid? hle]

end Cache

/-- How long an answer is valid. -/
def CacheSettings.life (settings : CacheSettings) : Option String → Nat
  | some _ => settings.memberLife
  | none => settings.missLife

namespace Cache

/-- What was remembered last is the answer until its life is over, and nothing is then. -/
theorem consult_remember (c : Cache) (now later : Nat) (q : Query) (answer : Option String) :
    ((c.remember now q answer).consult later q).1 =
      if later ≤ now + c.settings.life answer then some answer else none := by
  rw [(consult_eq _ later q).1]
  cases answer with
  | some member =>
      simp only [remember, Recent.valid?, Recent.find?_put c.settings.capacity_pos,
        Recent.find?_erase, CacheSettings.life]
      by_cases hle : later ≤ now + c.settings.memberLife <;> simp [Option.filter_some, hle]
  | none =>
      simp only [remember, Recent.valid?, Recent.find?_put c.settings.capacity_pos,
        Recent.find?_erase, CacheSettings.life]
      by_cases hle : later ≤ now + c.settings.missLife <;> simp [Option.filter_some, hle]

/-! ## What a cache remembers -/

/-- Whether all remembered answers, each with the end of its life, are as they should be. -/
structure All (c : Cache) (p : Query → Option String → Nat → Prop) : Prop where
  members : ∀ {q member validUntil}, (q, (member, validUntil)) ∈ c.members →
    p q (some member) validUntil
  misses : ∀ {q validUntil}, (q, validUntil) ∈ c.misses → p q none validUntil

variable {c : Cache} {p p' : Query → Option String → Nat → Prop}

theorem all_empty (settings : CacheSettings) : (empty settings).All p :=
  ⟨by simp [empty], by simp [empty]⟩

theorem all_clear (c : Cache) : c.clear.All p :=
  ⟨by simp [clear], by simp [clear]⟩

theorem All.mono (h : c.All p)
    (hp : ∀ q answer validUntil, p q answer validUntil → p' q answer validUntil) : c.All p' :=
  ⟨fun hx => hp _ _ _ (h.members hx), fun hx => hp _ _ _ (h.misses hx)⟩

theorem All.consult (h : c.All p) (now : Nat) (q : Query) : (c.consult now q).2.All p := by
  obtain ⟨_, _, hmembers, hmisses⟩ := c.consult_eq now q
  exact ⟨fun hx => h.members (hmembers.mem hx), fun hx => h.misses (hmisses.mem hx)⟩

/-- An answer of a cache is one that it remembers and whose life is not over. -/
theorem All.of_consult (h : c.All p) {now : Nat} {q : Query} {answer : Option String}
    (hanswer : (c.consult now q).1 = some answer) : ∃ validUntil, now ≤ validUntil ∧
      p q answer validUntil := by
  rw [(c.consult_eq now q).1, Option.or_eq_some_iff] at hanswer
  simp only [Option.map_eq_some_iff, Recent.valid?, Option.filter_eq_some_iff,
    decide_eq_true_eq] at hanswer
  rcases hanswer with ⟨⟨member, validUntil⟩, ⟨hfind, hle⟩, rfl⟩ | ⟨_, validUntil, ⟨hfind, hle⟩, rfl⟩
  · exact ⟨validUntil, hle, h.members (Recent.mem_of_find? hfind)⟩
  · exact ⟨validUntil, hle, h.misses (Recent.mem_of_find? hfind)⟩

/-- Remembering an answer replaces what was remembered for the query and leaves the rest. -/
theorem All.remember (h : c.All p) {now : Nat} {q : Query} {answer : Option String}
    (hnew : p' q answer (now + c.settings.life answer))
    (hold : ∀ q' answer' validUntil, q' ≠ q → p q' answer' validUntil → p' q' answer' validUntil) :
    (c.remember now q answer).All p' := by
  cases answer with
  | some member =>
      refine ⟨fun hx => ?_, fun hx => ?_⟩
      · rcases Recent.mem_of_mem_put hx with he | ⟨hx, hq⟩
        · cases he
          exact hnew
        · exact hold _ _ _ hq (h.members hx)
      · obtain ⟨hx, hq⟩ := Recent.mem_erase_iff.mp hx
        exact hold _ _ _ hq (h.misses hx)
  | none =>
      refine ⟨fun hx => ?_, fun hx => ?_⟩
      · obtain ⟨hx, hq⟩ := Recent.mem_erase_iff.mp hx
        exact hold _ _ _ hq (h.members hx)
      · rcases Recent.mem_of_mem_put hx with he | ⟨hx, hq⟩
        · cases he
          exact hnew
        · exact hold _ _ _ hq (h.misses hx)

end Cache
end EnvelopeRules
