import EnvelopeRules.Proofs.Table
import EnvelopeRules.Proofs.Text.Bytes
import EnvelopeRules.Store.Registry

/-!
# Stores registered one after another

However many stores are offered to a registry, it keeps for each identifier the first store that has
it, finds that store under its own identifier only, and refuses all later ones.
-/

namespace EnvelopeRules
namespace Registry

/-- The registry after a store was offered to it. -/
def offer (r : Registry) (s : Store) : Registry :=
  match r.insert s with
  | .ok r' => r'
  | .error _ => r

def ofStores (stores : List Store) : Registry := stores.foldl offer empty

variable {r : Registry} {s : Store} {stores : List Store} {id : String} {err : StoreError}

/-! ## One store -/

theorem contains_iff : r.contains id ↔ ∃ s, r.resolve id = some s := by
  rw [contains, Table.contains, Option.isSome_iff_exists]
  rfl

theorem insert_of_contains (h : r.contains s.id) : r.insert s = .error (.duplicate s.id) := if_pos h

theorem insert_of_not_contains (h : ¬ r.contains s.id) :
    r.insert s = .ok ⟨r.stores.insert s.id s⟩ := if_neg h

theorem insert_eq_error_iff :
    r.insert s = .error err ↔ err = .duplicate s.id ∧ r.contains s.id := by
  by_cases hs : r.contains s.id
  · rw [insert_of_contains hs]
    simp [hs, eq_comm]
  · rw [insert_of_not_contains hs]
    simp [hs]

theorem offer_of_contains (h : r.contains s.id) : r.offer s = r := by
  rw [offer, insert_of_contains h]

theorem offer_of_not_contains (h : ¬ r.contains s.id) : r.offer s = ⟨r.stores.insert s.id s⟩ := by
  rw [offer, insert_of_not_contains h]

theorem pairwise_ids (r : Registry) : r.ids.Pairwise fun a b => Bytes.of a < Bytes.of b := by
  rw [ids, Table.names, List.pairwise_map]
  exact r.stores.sorted.imp Bytes.of_lt_of_lt

/-! ## Many stores -/

/-- Whether a registry has, for each identifier, the first of some stores with it. -/
def Keeps (r : Registry) (stores : List Store) : Prop :=
  ∀ id, r.resolve id = stores.find? fun s => s.id = id

theorem Keeps.contains_iff (h : r.Keeps stores) : r.contains id ↔ ∃ s ∈ stores, s.id = id := by
  rw [Registry.contains_iff, h id]
  simp only [← Option.isSome_iff_exists, List.find?_isSome, decide_eq_true_eq]

theorem Keeps.resolve_eq_some_iff (h : r.Keeps stores) :
    r.resolve id = some s ↔
      s.id = id ∧ ∃ before after, stores = before ++ s :: after ∧ ∀ a ∈ before, a.id ≠ id := by
  rw [h id, List.find?_eq_some_iff_append]
  simp only [decide_eq_true_eq, Bool.not_eq_true', decide_eq_false_iff_not, ne_eq]

/-- One more store is found if none with its identifier was there, and changes nothing else. -/
theorem Keeps.offer (h : r.Keeps stores) (s : Store) : (r.offer s).Keeps (stores ++ [s]) := by
  intro id
  rw [List.find?_append]
  by_cases hs : r.contains s.id
  · obtain ⟨s', hs'⟩ := Registry.contains_iff.mp hs
    rw [offer_of_contains hs, h id]
    by_cases hid : s.id = id
    · subst hid
      rw [← h s.id, hs', Option.some_or]
    · simp [hid]
  · have hnone : stores.find? (fun a => a.id = s.id) = none := by
      rw [← h s.id, Option.eq_none_iff_forall_ne_some]
      intro s' hs'
      exact hs (Registry.contains_iff.mpr ⟨s', hs'⟩)
    have hfind : (r.offer s).resolve id = if id = s.id then some s else r.resolve id := by
      rw [offer_of_not_contains hs]
      exact Table.find?_insert _ _ _ _
    rw [hfind, h id]
    by_cases hid : s.id = id
    · subst hid
      rw [if_pos rfl, hnone]
      simp
    · rw [if_neg (Ne.symm hid)]
      simp [hid]

theorem ofStores_concat (stores : List Store) (s : Store) :
    ofStores (stores ++ [s]) = (ofStores stores).offer s := by
  simp [ofStores]

theorem keeps_ofStores (stores : List Store) : (ofStores stores).Keeps stores := by
  induction stores using List.reverseRecOn with
  | nil => exact fun id => rfl
  | append_singleton stores s ih =>
      rw [ofStores_concat]
      exact ih.offer s

/-- What a registry has after any stores were offered to it, and what becomes of one more. -/
theorem ofStores_keeps_first (stores : List Store) :
    (∀ id s, (ofStores stores).resolve id = some s ↔
      s.id = id ∧ ∃ before after, stores = before ++ s :: after ∧ ∀ a ∈ before, a.id ≠ id) ∧
    (∀ id s, (ofStores stores).resolve id = some s →
      ∀ other, (ofStores stores).resolve other = some s ↔ other = s.id) ∧
    (∀ s err, (ofStores stores).insert s = .error err ↔
      err = .duplicate s.id ∧ ∃ a ∈ stores, a.id = s.id) ∧
    (∀ s settings err, (ofStores stores).insert (s.cached settings) = .error err ↔
      (ofStores stores).insert s = .error err) ∧
    (∀ s, (∃ a ∈ stores, a.id = s.id) → ofStores (stores ++ [s]) = ofStores stores) ∧
    (∀ s, (∀ a ∈ stores, a.id ≠ s.id) →
      (ofStores stores).insert s = .ok (ofStores (stores ++ [s]))) ∧
    (∀ id, (ofStores stores).contains id ↔ ∃ s, (ofStores stores).resolve id = some s) ∧
    (ofStores stores).ids.Pairwise (fun a b => Bytes.of a < Bytes.of b) ∧
    (∀ id, id ∈ (ofStores stores).ids ↔ ∃ s ∈ stores, s.id = id) ∧
    (ofStores stores).size = (ofStores stores).ids.length := by
  have hkeeps := keeps_ofStores stores
  refine ⟨fun id s => hkeeps.resolve_eq_some_iff, ?own, ?refused, ?cached, ?unchanged, ?added,
    fun id => contains_iff, pairwise_ids _, ?ids, ?size⟩
  case own =>
    intro id s hs other
    obtain ⟨rfl, _⟩ := hkeeps.resolve_eq_some_iff.mp hs
    constructor
    · intro hother
      exact (hkeeps.resolve_eq_some_iff.mp hother).1.symm
    · rintro rfl
      exact hs
  case refused =>
    intro s err
    rw [insert_eq_error_iff, hkeeps.contains_iff]
  case cached =>
    intro s settings err
    rw [insert_eq_error_iff, insert_eq_error_iff]
    rfl
  case unchanged =>
    intro s hs
    rw [ofStores_concat, offer_of_contains (hkeeps.contains_iff.mpr hs)]
  case added =>
    intro s hs
    have hnew : ¬ (ofStores stores).contains s.id := by
      intro hcontains
      obtain ⟨a, ha, hid⟩ := hkeeps.contains_iff.mp hcontains
      exact hs a ha hid
    rw [ofStores_concat, insert_of_not_contains hnew, offer_of_not_contains hnew]
  case ids =>
    intro id
    rw [ids, ← Table.contains_iff]
    exact hkeeps.contains_iff
  case size =>
    rw [size, ids, Table.size, Table.names, List.length_map]

end Registry
end EnvelopeRules
