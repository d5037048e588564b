import EnvelopeRules.Table
import Mathlib.Data.List.Induction

/-!
# Tables of a list

The table of a list whose names ascend has the entries of the list.  No name comes twice in a table,
and a new entry adds its name to those that are there.
-/

namespace EnvelopeRules
namespace Table

variable {α : Type}

theorem place_of_lt {name : String} {value : α} {l : List (String × α)}
    (h : ∀ e ∈ l, e.1 < name) : place name value l = l ++ [(name, value)] := by
  induction l with
  | nil => rfl
  | cons a rest ih =>
      have ha : a.1 < name := h a List.mem_cons_self
      have hrest : ∀ e ∈ rest, e.1 < name := fun e he => h e (List.mem_cons_of_mem _ he)
      have hnlt : ¬ name < a.1 := fun hlt => String.lt_irrefl _ (String.lt_trans ha hlt)
      have hne : a.1 ≠ name := fun heq => String.lt_irrefl _ (heq ▸ ha)
      rw [place, if_neg hnlt, if_neg hne, ih hrest, List.cons_append]

theorem foldl_insert_entries {l : List (String × α)} (t : Table α)
    (hl : l.Pairwise fun a b => a.1 < b.1) (ht : ∀ a ∈ t.entries, ∀ e ∈ l, a.1 < e.1) :
    (l.foldl (fun t e => t.insert e.1 e.2) t).entries = t.entries ++ l := by
  induction l generalizing t with
  | nil => simp
  | cons e rest ih =>
      obtain ⟨he, hrest⟩ := List.pairwise_cons.mp hl
      have hplace : (t.insert e.1 e.2).entries = t.entries ++ [e] :=
        place_of_lt fun a ha => ht a ha e List.mem_cons_self
      rw [List.foldl_cons, ih _ hrest, hplace, List.append_assoc, List.singleton_append]
      intro a ha b hb
      rw [hplace] at ha
      rcases List.mem_append.mp ha with ha | ha
      · exact ht a ha b (List.mem_cons_of_mem _ hb)
      · exact List.mem_singleton.mp ha ▸ he b hb

/-- A list whose names ascend is the list of the entries of its table. -/
theorem entries_ofList {l : List (String × α)} (h : l.Pairwise fun a b => a.1 < b.1) :
    (ofList l).entries = l :=
  foldl_insert_entries empty h (by simp [empty])

theorem ofList_concat (l : List (String × α)) (name : String) (a : α) :
    ofList (l ++ [(name, a)]) = (ofList l).insert name a := by
  simp [ofList]

theorem mem_of_mem_ofList {l : List (String × α)} {e : String × α} (h : e ∈ (ofList l).entries) :
    e ∈ l := by
  induction l using List.reverseRecOn with
  | nil => exact h
  | append_singleton l a ih =>
      rw [ofList_concat] at h
      rcases mem_place h with rfl | h
      · simp
      · exact List.mem_append_left _ (ih h)

/-- The table of a list whose names differ has every entry of the list. -/
theorem find?_ofList_of_mem {l : List (String × α)} (h : l.Pairwise fun a b => a.1 ≠ b.1)
    {name : String} {a : α} (hmem : (name, a) ∈ l) : (ofList l).find? name = some a := by
  induction l using List.reverseRecOn with
  | nil => cases hmem
  | append_singleton l e ih =>
      obtain ⟨hl, _, hne⟩ := List.pairwise_append.mp h
      rw [ofList_concat, find?_insert]
      rcases List.mem_append.mp hmem with hmem | hmem
      · rw [if_neg (hne _ hmem e (List.mem_singleton_self e))]
        exact ih hl hmem
      · cases List.mem_singleton.mp hmem
        exact if_pos rfl

theorem eq_of_mem_of_mem {l : List (String × α)} (hs : l.Pairwise fun a b => a.1 < b.1)
    {name : String} {v w : α} (hv : (name, v) ∈ l) (hw : (name, w) ∈ l) : v = w := by
  have hfind := (lookup_of_mem hs hv).symm.trans (lookup_of_mem hs hw)
  exact Option.some.inj hfind

theorem nodup_names (t : Table α) : t.names.Nodup := by
  rw [names, List.Nodup, List.pairwise_map]
  refine t.sorted.imp ?_
  intro a b hlt heq
  exact String.lt_irrefl b.1 (heq ▸ hlt)

theorem contains_insert (t : Table α) (name other : String) (a : α) :
    (t.insert name a).contains other = (decide (other = name) || t.contains other) := by
  rw [contains, find?_insert, contains]
  by_cases h : other = name <;> simp [h]

/-- What is found after an insertion is what was inserted or was there before. -/
theorem find?_insert_eq_some {t : Table α} {name other : String} {a b : α}
    (h : (t.insert name a).find? other = some b) : b = a ∨ t.find? other = some b := by
  rw [find?_insert] at h
  split at h
  · cases h
    exact .inl rfl
  · exact .inr h

end Table

end EnvelopeRules
