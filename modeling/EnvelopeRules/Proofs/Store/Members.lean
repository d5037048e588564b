import EnvelopeRules.Proofs.Store.Expiry
import EnvelopeRules.Store.Registry

/-!
# Stores of members

A store in memory answers from its members at once.  Whatever it remembers is an answer that it
would give again, so a cache in front of it changes no answer, at any time and under any time limit.
-/

namespace EnvelopeRules

/-! ## Caches -/

namespace Cache

/-- Whether a cache remembers only what some backend answers. -/
def Agrees (c : Cache) (answer : Query → Option String) : Prop :=
  c.All fun q member _ => answer q = member

variable {c : Cache} {answer : Query → Option String}

theorem agrees_empty (settings : CacheSettings) : (empty settings).Agrees answer :=
  all_empty settings

/-- A cache that agrees with a backend gives its answer, if any, and still agrees afterwards. -/
theorem Agrees.consult (h : c.Agrees answer) (now : Nat) (q : Query) :
    (c.consult now q).2.Agrees answer ∧
      ∀ member, (c.consult now q).1 = some member → member = answer q := by
  refine ⟨All.consult h now q, fun member hmember => ?_⟩
  obtain ⟨_, _, hq⟩ := All.of_consult h hmember
  exact hq.symm

theorem Agrees.remember (h : c.Agrees answer) (now : Nat) (q : Query) :
    (c.remember now q (answer q)).Agrees answer :=
  All.remember h rfl fun _ _ _ _ hq => hq

end Cache

/-! ## Stores -/

namespace Store

/-- Whether a store answers from some members, with a cache that agrees with them if it has one. -/
structure Holds (s : Store) (m : Memory) : Prop where
  backend : s.backend = .ofMemory m
  cache : ∀ {c}, s.cache = some c → c.Agrees m.answer

variable {s : Store} {m : Memory}

theorem holds_ofMemory (id : String) (m : Memory) : (ofMemory id m).Holds m :=
  ⟨rfl, fun h => by cases h⟩

theorem Holds.cached (h : s.Holds m) (settings : CacheSettings) : (s.cached settings).Holds m := by
  refine ⟨h.backend, fun hc => ?_⟩
  cases hc
  exact Cache.agrees_empty settings

theorem Holds.consult (h : s.Holds m) (now : Nat) (q : Query) :
    (s.consult now q).2.Holds m ∧
      ∀ member, (s.consult now q).1 = some member → member = m.answer q := by
  rw [Store.consult]
  split
  · exact ⟨h, by simp⟩
  · rename_i c hc
    obtain ⟨hafter, hanswer⟩ := (h.cache hc).consult now q
    refine ⟨⟨h.backend, fun hc' => ?_⟩, hanswer⟩
    cases hc'
    exact hafter

theorem Holds.remember (h : s.Holds m) (now : Nat) (q : Query) :
    (s.remember now q (m.answer q)).Holds m := by
  refine ⟨h.backend, fun hafter => ?_⟩
  obtain ⟨c, hc, rfl⟩ := Option.map_eq_some_iff.mp hafter
  exact (h.cache hc).remember now q

/-- The members' backend needs no time and does not fail. -/
theorem Holds.ask (h : s.Holds m) (limit now : Nat) (q : Query) :
    s.ask (some limit) now q = ⟨some (.ok (m.answer q)),
      { s with asked := s.asked + 1 }.remember now q (m.answer q), now⟩ := by
  obtain ⟨id, kind, format, backend, cache, asked⟩ := s
  obtain ⟨rfl, _⟩ := h
  simp [Store.ask, Backend.ofMemory, inTime]

/-- A store of members answers from them at once, within any limit and at any time. -/
theorem Holds.query (h : s.Holds m) (limit now : Nat) (q : Query) :
    (s.query (some limit) now q).answer? = some (.ok (m.answer q)) ∧
      (s.query (some limit) now q).store.Holds m ∧ (s.query (some limit) now q).now = now := by
  obtain ⟨hafter, hanswer⟩ := h.consult now q
  rw [Store.query]
  split
  · rename_i member s' hs
    rw [hs] at hafter hanswer
    exact ⟨by rw [hanswer member rfl], hafter, rfl⟩
  · rename_i s' hs
    rw [hs] at hafter
    have hasked : Holds { s' with asked := s'.asked + 1 } m := ⟨hafter.backend, hafter.cache⟩
    rw [hafter.ask]
    exact ⟨rfl, hasked.remember now q, rfl⟩

end Store
end EnvelopeRules
