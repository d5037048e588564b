/-!
# Tables from names to values

A table is a list of entries in ascending order of their names, so that two tables with the same
entries are equal.  Names are ordered by their characters, which is also the order of their bytes.
-/

namespace EnvelopeRules

structure Table (α : Type) where
  entries : List (String × α)
  sorted : entries.Pairwise fun a b => a.1 < b.1
  deriving DecidableEq

namespace Table

variable {α β : Type}

def empty : Table α := ⟨[], .nil⟩

instance : Inhabited (Table α) := ⟨empty⟩

def isEmpty (t : Table α) : Bool := t.entries.isEmpty

def size (t : Table α) : Nat := t.entries.length

def names (t : Table α) : List String := t.entries.map Prod.fst

def lookup (name : String) : List (String × α) → Option α
  | [] => none
  | e :: rest => if e.1 = name then some e.2 else lookup name rest

def find? (t : Table α) (name : String) : Option α := lookup name t.entries

def contains (t : Table α) (name : String) : Bool := (t.find? name).isSome

/-- Puts an entry in its place, where it replaces one of the same name. -/
def place (name : String) (value : α) : List (String × α) → List (String × α)
  | [] => [(name, value)]
  | e :: rest =>
    if name < e.1 then (name, value) :: e :: rest
    else if e.1 = name then (name, value) :: rest
    else e :: place name value rest

theorem mem_place {name : String} {value : α} {e : String × α} {l : List (String × α)}
    (h : e ∈ place name value l) : e = (name, value) ∨ e ∈ l := by
  induction l with
  | nil => simpa [place] using h
  | cons a rest ih =>
    rw [place] at h
    split at h
    · simpa using h
    · split at h
      · rcases List.mem_cons.mp h with h | h
        · exact .inl h
        · exact .inr (List.mem_cons_of_mem _ h)
      · rcases List.mem_cons.mp h with h | h
        · exact .inr (h ▸ List.mem_cons_self)
        · exact (ih h).imp_right (List.mem_cons_of_mem _)

theorem lt_of_not_lt_of_ne {a b : String} (h : ¬ a < b) (hne : b ≠ a) : b < a := by
  rcases Std.le_total (a := a) (b := b) with hle | hle
  · exact absurd (String.le_antisymm hle (String.not_lt.mp h)).symm hne
  · exact String.not_le.mp fun hab => hne (String.le_antisymm hle hab)

theorem sorted_place (name : String) (value : α) {l : List (String × α)}
    (h : l.Pairwise fun a b => a.1 < b.1) :
    (place name value l).Pairwise fun a b => a.1 < b.1 := by
  induction l with
  | nil => simp [place]
  | cons a rest ih =>
    obtain ⟨ha, hr⟩ := List.pairwise_cons.mp h
    rw [place]
    split
    · rename_i hlt
      refine List.pairwise_cons.mpr ⟨fun e he => ?_, h⟩
      rcases List.mem_cons.mp he with rfl | he
      · exact hlt
      · exact String.lt_trans hlt (ha e he)
    · split
      · rename_i heq
        exact List.pairwise_cons.mpr ⟨fun e he => heq ▸ ha e he, hr⟩
      · rename_i hlt hne
        refine List.pairwise_cons.mpr ⟨fun e he => ?_, ih hr⟩
        rcases mem_place he with rfl | he
        · exact lt_of_not_lt_of_ne hlt hne
        · exact ha e he

def insert (t : Table α) (name : String) (value : α) : Table α :=
  ⟨place name value t.entries, sorted_place name value t.sorted⟩

/-- The table of some entries; of two with one name the later one stays. -/
def ofList (l : List (String × α)) : Table α := l.foldl (fun t e => t.insert e.1 e.2) empty

def mapValues (f : String → α → β) (t : Table α) : Table β :=
  ⟨t.entries.map fun e => (e.1, f e.1 e.2),
    List.pairwise_map.mpr (t.sorted.imp fun h => h)⟩

@[simp] theorem find?_empty (name : String) : (empty : Table α).find? name = none := rfl

theorem lookup_place (name other : String) (value : α) (l : List (String × α)) :
    lookup other (place name value l) = if other = name then some value else lookup other l := by
  induction l with
  | nil => simp [place, lookup, eq_comm]
  | cons a rest ih =>
    rw [place]
    split
    · simp [lookup, eq_comm]
    · split
      · rename_i heq
        by_cases ho : other = name
        · simp [lookup, ho]
        · simp [lookup, ho, heq, Ne.symm ho]
      · rename_i hne
        rw [lookup, ih, lookup]
        by_cases ho : other = name
        · subst ho; simp [hne]
        · simp [ho]

theorem find?_insert (t : Table α) (name other : String) (value : α) :
    (t.insert name value).find? other = if other = name then some value else t.find? other :=
  lookup_place name other value t.entries

theorem lookup_map (f : String → α → β) (name : String) (l : List (String × α)) :
    lookup name (l.map fun e => (e.1, f e.1 e.2)) = (lookup name l).map (f name) := by
  induction l with
  | nil => rfl
  | cons a rest ih =>
    obtain ⟨n, v⟩ := a
    rw [List.map_cons, lookup, lookup, ih]
    by_cases hn : n = name
    · subst hn
      simp
    · simp [hn]

theorem find?_mapValues (f : String → α → β) (t : Table α) (name : String) :
    (t.mapValues f).find? name = (t.find? name).map (f name) :=
  lookup_map f name t.entries

theorem place_map (f : String → α → β) (name : String) (value : α) (l : List (String × α)) :
    place name (f name value) (l.map fun e => (e.1, f e.1 e.2)) =
      (place name value l).map fun e => (e.1, f e.1 e.2) := by
  induction l with
  | nil => rfl
  | cons a rest ih =>
    rw [List.map_cons, place, place, ih]
    split
    · rfl
    · split <;> rfl

theorem mapValues_insert (f : String → α → β) (t : Table α) (name : String) (value : α) :
    (t.insert name value).mapValues f = (t.mapValues f).insert name (f name value) := by
  rw [Table.mk.injEq]
  exact (place_map f name value t.entries).symm

theorem mem_of_lookup {name : String} {value : α} {l : List (String × α)}
    (h : lookup name l = some value) : (name, value) ∈ l := by
  induction l with
  | nil => simp [lookup] at h
  | cons a rest ih =>
    rw [lookup] at h
    split at h
    · rename_i heq
      cases h
      exact heq ▸ List.mem_cons_self
    · exact List.mem_cons_of_mem _ (ih h)

theorem lookup_of_mem {name : String} {value : α} {l : List (String × α)}
    (hs : l.Pairwise fun a b => a.1 < b.1) (h : (name, value) ∈ l) :
    lookup name l = some value := by
  induction l with
  | nil => simp at h
  | cons a rest ih =>
    obtain ⟨ha, hr⟩ := List.pairwise_cons.mp hs
    rw [lookup]
    rcases List.mem_cons.mp h with rfl | h
    · simp
    · have hne : a.1 ≠ name := fun heq => String.lt_irrefl name (by simpa [heq] using ha _ h)
      rw [if_neg hne, ih hr h]

theorem find?_eq_some_iff {t : Table α} {name : String} {value : α} :
    t.find? name = some value ↔ (name, value) ∈ t.entries :=
  ⟨mem_of_lookup, lookup_of_mem t.sorted⟩

theorem contains_iff {t : Table α} {name : String} : t.contains name ↔ name ∈ t.names := by
  simp only [contains, Option.isSome_iff_exists, find?_eq_some_iff, names, List.mem_map,
    Prod.exists, exists_and_right, exists_eq_right]

end Table
end EnvelopeRules
