import EnvelopeRules.Proofs.Store.Answering
import EnvelopeRules.Proofs.Table
import Mathlib.Data.List.Perm.Basic

/-!
# Members in the order of first occurrence

A store in memory is a set with an order.  Its members are the given values, each where it came
first, and its index holds the same.  So a key is found if it was given at all, in whatever order
and however often, and only the query for any member depends on which value was given first.
-/

namespace EnvelopeRules

/-! ## Lists without repetitions -/

theorem eraseDups_concat (vs : List String) (v : String) :
    (vs ++ [v]).eraseDups = if v ∈ vs then vs.eraseDups else vs.eraseDups ++ [v] := by
  rw [List.eraseDups_append]
  by_cases hv : v ∈ vs
  · simp [List.removeAll, hv]
  · have hlast : [v].eraseDups = [v] := by simp [List.eraseDups_cons]
    simp [List.removeAll, hv, hlast]

theorem eraseDups_of_nodup {vs : List String} (h : vs.Nodup) : vs.eraseDups = vs := by
  induction vs with
  | nil => rfl
  | cons v vs ih =>
      obtain ⟨hv, hvs⟩ := List.nodup_cons.mp h
      have hfilter : vs.filter (fun w => !w == v) = vs := by
        rw [List.filter_eq_self]
        intro w hw
        have hne : w ≠ v := fun heq => hv (heq ▸ hw)
        simpa using hne
      rw [List.eraseDups_cons, hfilter, ih hvs]

theorem head?_eraseDups (vs : List String) : vs.eraseDups.head? = vs.head? := by
  cases vs with
  | nil => rfl
  | cons v vs => rw [List.eraseDups_cons, List.head?_cons, List.head?_cons]

/-! ## Members and their index -/

namespace Memory

/-- Whether a memory is the set of some values in the order of their first occurrences, with an
index of just these. -/
structure Lists (m : Memory) (vs : List String) : Prop where
  values : m.values = vs.eraseDups
  ordered : m.values.Pairwise fun v w => vs.idxOf v < vs.idxOf w
  indexed : ∀ v, m.index.contains v ↔ v ∈ m.values

variable {m : Memory} {vs : List String}

theorem lists_empty : empty.Lists [] := by
  refine ⟨rfl, .nil, fun v => ?_⟩
  simp [empty, Table.contains]

theorem Lists.mem_values (h : m.Lists vs) {v : String} : v ∈ m.values ↔ v ∈ vs := by
  rw [h.values, List.mem_eraseDups]

theorem Lists.contains_iff (h : m.Lists vs) {v : String} : m.index.contains v ↔ v ∈ vs :=
  (h.indexed v).trans h.mem_values

theorem Lists.nodup (h : m.Lists vs) : m.values.Nodup := by
  refine h.ordered.imp ?_
  intro v w hlt heq
  exact Nat.lt_irrefl _ (heq ▸ hlt)

theorem Lists.perm_index (h : m.Lists vs) : m.index.names.Perm m.values := by
  rw [List.perm_ext_iff_of_nodup m.index.nodup_names h.nodup]
  intro v
  rw [← Table.contains_iff, h.indexed]

/-- A value that was not given before comes last, and one that was changes nothing. -/
theorem Lists.add (h : m.Lists vs) (v : String) : (m.add v).Lists (vs ++ [v]) := by
  have hordered : m.values.Pairwise fun a b => (vs ++ [v]).idxOf a < (vs ++ [v]).idxOf b := by
    refine h.ordered.imp_of_mem ?_
    intro a b ha hb hlt
    rwa [List.idxOf_append_of_mem (h.mem_values.mp ha),
      List.idxOf_append_of_mem (h.mem_values.mp hb)]
  by_cases hv : v ∈ vs
  · have hadd : m.add v = m := if_pos (h.contains_iff.mpr hv)
    rw [hadd]
    refine ⟨?_, hordered, h.indexed⟩
    rw [eraseDups_concat, if_pos hv, h.values]
  · have hnew : ¬ m.index.contains v := fun hmem => hv (h.contains_iff.mp hmem)
    have hadd : m.add v = ⟨m.values ++ [v], m.index.insert v ()⟩ := if_neg hnew
    rw [hadd]
    refine ⟨?_, ?_, fun w => ?_⟩
    · rw [eraseDups_concat, if_neg hv, h.values]
    · refine List.pairwise_append.mpr ⟨hordered, List.pairwise_singleton _ v, ?_⟩
      intro a ha b hb
      obtain rfl := List.mem_singleton.mp hb
      have hmem := h.mem_values.mp ha
      have hbefore := List.idxOf_lt_length_iff.mpr hmem
      rw [List.idxOf_append_of_mem hmem, List.idxOf_append_of_notMem hv]
      omega
    · rw [Table.contains_insert, Bool.or_eq_true, decide_eq_true_eq, h.indexed, List.mem_append,
        List.mem_singleton, or_comm]

theorem lists_ofList (vs : List String) : (ofList vs).Lists vs := by
  induction vs using List.reverseRecOn with
  | nil => exact lists_empty
  | append_singleton vs v ih =>
      have hadd : ofList (vs ++ [v]) = (ofList vs).add v := by simp [ofList]
      rw [hadd]
      exact ih.add v

/-! ## Answers -/

theorem Lists.answer_key (h : m.Lists vs) (key : String) :
    m.answer (.key key) = if key ∈ vs then some key else none := by
  rw [answer]
  simp only [h.contains_iff]

theorem Lists.answer_any (h : m.Lists vs) : m.answer .any = vs.head? := by
  rw [answer, h.values, head?_eraseDups]

end Memory

namespace Store

variable {id key : String} {m : Memory} {vs : List String}
  {limit : Option Nat} {now : Nat} {q : Query}

theorem query_ofMemory : ((ofMemory id m).query limit now q).answer? = some (.ok (m.answer q)) := by
  have hin : inTime (ofMemory id m).backend.delay limit := by
    cases limit with
    | none => rfl
    | some limit => exact decide_eq_true (Nat.zero_le limit)
  have hforgotten : ((ofMemory id m).consult now q).1 = none := rfl
  exact query_answer?_eq_iff.mpr (.asked hforgotten hin)

theorem contains_ofMemory (h : m.Lists vs) :
    ((ofMemory id m).contains limit now key).1 = some (.ok (decide (key ∈ vs))) := by
  rw [contains, query_ofMemory, h.answer_key]
  by_cases hkey : key ∈ vs <;> simp [hkey, Except.map]

/-- What a store of some values holds, and what it answers. -/
theorem ofMemory_ofList_lists (id : String) (vs : List String) :
    ((Memory.ofList vs).Lists vs ∧ (Memory.ofList vs).values.Nodup ∧
      (Memory.ofList vs).index.names.Perm (Memory.ofList vs).values) ∧
    (∀ limit now key,
      ((ofMemory id (.ofList vs)).query limit now (.key key)).answer? =
        some (.ok (if key ∈ vs then some key else none)) ∧
      ((ofMemory id (.ofList vs)).contains limit now key).1 = some (.ok (decide (key ∈ vs)))) ∧
    (∀ limit now, ((ofMemory id (.ofList vs)).query limit now .any).answer? = some (.ok vs.head?)) ∧
    (∀ ws, (∀ v, v ∈ ws ↔ v ∈ vs) → ∀ limit now key,
      ((ofMemory id (.ofList ws)).query limit now (.key key)).answer? =
        ((ofMemory id (.ofList vs)).query limit now (.key key)).answer? ∧
      ((ofMemory id (.ofList ws)).contains limit now key).1 =
        ((ofMemory id (.ofList vs)).contains limit now key).1) ∧
    (Memory.ofList (Memory.ofList vs).values).values = (Memory.ofList vs).values := by
  have h := Memory.lists_ofList
  refine ⟨⟨h vs, (h vs).nodup, (h vs).perm_index⟩, ?_, ?_, ?_, ?_⟩
  · intro limit now key
    exact ⟨by rw [query_ofMemory, (h vs).answer_key], contains_ofMemory (h vs)⟩
  · intro limit now
    rw [query_ofMemory, (h vs).answer_any]
  · intro ws hsame limit now key
    rw [query_ofMemory, query_ofMemory, (h ws).answer_key, (h vs).answer_key,
      contains_ofMemory (h ws), contains_ofMemory (h vs)]
    simp only [hsame, and_self]
  · rw [(h _).values, eraseDups_of_nodup (h vs).nodup]

end Store
end EnvelopeRules
