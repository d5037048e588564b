import EnvelopeRules.Document.Load
import EnvelopeRules.Proofs.Result
import EnvelopeRules.Proofs.Table

/-!
# What a load gives

A load goes through the entries of a document one by one, but what comes of it can be said at once:
the document of all entries that can be built, or the error of the first one that cannot.  A rule
that asks a store can be built only among the stores that can.
-/

namespace EnvelopeRules

namespace RuleDocument

/-! ## Going through the entries -/

section Entries

variable {β : Type} (build : String → Toml.Value → Except EntryError β)

/-- What is built from the entries that can be built. -/
def built (entries : List (String × Toml.Value)) : List (String × β) :=
  entries.filterMap fun e =>
    match build e.1 e.2 with
    | .ok b => some (e.1, b)
    | .error _ => none

/-- The entries that cannot be built. -/
def refused (part : DocumentSection) (entries : List (String × Toml.Value)) : List Skipped :=
  entries.filterMap fun e =>
    match build e.1 e.2 with
    | .ok _ => none
    | .error err => some ⟨part, e.1, err⟩

variable {build}

theorem mem_built_iff {entries : List (String × Toml.Value)} {name : String} {b : β} :
    (name, b) ∈ built build entries ↔ ∃ v, (name, v) ∈ entries ∧ build name v = .ok b := by
  simp only [built, List.mem_filterMap, Prod.exists]
  constructor
  · rintro ⟨n, v, hmem, he⟩
    split at he
    · rename_i b' hb
      cases he
      exact ⟨v, hmem, hb⟩
    · cases he
  · rintro ⟨v, hmem, hb⟩
    exact ⟨name, v, hmem, by simp [hb]⟩

theorem mem_names_built_iff {entries : List (String × Toml.Value)} {name : String} :
    name ∈ (built build entries).map Prod.fst ↔
      ∃ v, (name, v) ∈ entries ∧ ∃ b, build name v = .ok b := by
  simp only [List.mem_map, Prod.exists, exists_and_right, exists_eq_right, mem_built_iff]
  constructor
  · rintro ⟨b, v, hmem, hb⟩
    exact ⟨v, hmem, b, hb⟩
  · rintro ⟨v, hmem, b, hb⟩
    exact ⟨b, v, hmem, hb⟩

theorem refused_eq_nil_iff {part : DocumentSection} {entries : List (String × Toml.Value)} :
    refused build part entries = [] ↔
      ∀ name v, (name, v) ∈ entries → ∃ b, build name v = .ok b := by
  simp only [refused, List.filterMap_eq_nil_iff, Prod.forall]
  refine forall_congr' fun name => forall_congr' fun v => imp_congr_right fun _ => ?_
  cases build name v <;> simp

theorem pairwise_built (build : String → Toml.Value → Except EntryError β)
    {entries : List (String × Toml.Value)} (h : entries.Pairwise fun a b => a.1 < b.1) :
    (built build entries).Pairwise fun a b => a.1 < b.1 := by
  refine List.pairwise_filterMap.mpr (h.imp fun {a a'} hlt b hb b' hb' => ?_)
  have hname : ∀ {e : String × Toml.Value} {c : String × β},
      (match build e.1 e.2 with
        | .ok b => some (e.1, b)
        | .error _ => none) = some c → c.1 = e.1 := by
    intro e c hc
    split at hc
    · cases hc
      rfl
    · cases hc
  rw [hname hb, hname hb']
  exact hlt

/-- What comes of a document with some entries that cannot be built: they are left out, or the first
one makes the load fail. -/
def settle (skip : Bool) (d : RuleDocument) (bad : List Skipped) :
    Except LoadError (RuleDocument × List Skipped) :=
  match skip, bad with
  | false, s :: _ => .error (.entry s.part s.name s.reason)
  | _, bad => .ok (d, bad)

/-- Adding entries in order of their names adds all that can be built.  What is added so far goes
into the document by `doc`. -/
theorem addAll_after (skip : Bool) (part : DocumentSection)
    {buildIn : RuleDocument → String → Toml.Value → Except EntryError β}
    {add : RuleDocument → String → β → Except LoadError RuleDocument}
    (doc : List (String × β) → RuleDocument)
    (hbuild : ∀ before name v, buildIn (doc before) name v = build name v)
    (hadd : ∀ before name v b, (∀ e ∈ before, e.1 < name) → build name v = .ok b →
      add (doc before) name b = .ok (doc (before ++ [(name, b)])))
    {entries : List (String × Toml.Value)} (hsorted : entries.Pairwise fun a b => a.1 < b.1)
    {before : List (String × β)} (hbefore : ∀ a ∈ before, ∀ e ∈ entries, a.1 < e.1) :
    addAll skip part buildIn add (doc before) entries =
      settle skip (doc (before ++ built build entries)) (refused build part entries) := by
  induction entries generalizing before with
  | nil => cases skip <;> simp [addAll, settle, built, refused]
  | cons entry rest ih =>
      obtain ⟨name, v⟩ := entry
      obtain ⟨hname, hrest⟩ := List.pairwise_cons.mp hsorted
      have hlt : ∀ e ∈ before, e.1 < name := fun e he => hbefore e he _ List.mem_cons_self
      have hbefore' : ∀ a ∈ before, ∀ e ∈ rest, a.1 < e.1 :=
        fun a ha e he => hbefore a ha e (List.mem_cons_of_mem _ he)
      rw [addAll, hbuild before name v]
      cases hb : build name v with
      | ok b =>
          have hafter : ∀ a ∈ before ++ [(name, b)], ∀ e ∈ rest, a.1 < e.1 := by
            intro a ha e he
            rcases List.mem_append.mp ha with ha | ha
            · exact hbefore' a ha e he
            · exact List.mem_singleton.mp ha ▸ hname e he
          have hmore : built build ((name, v) :: rest) = (name, b) :: built build rest := by
            simp [built, hb]
          have hsame : refused build part ((name, v) :: rest) = refused build part rest := by
            simp [refused, hb]
          dsimp only
          rw [hadd before name v b hlt hb, Result.ok_bind, hmore, hsame, ih hrest hafter,
            List.append_assoc]
          rfl
      | error err =>
          have hsame : built build ((name, v) :: rest) = built build rest := by
            simp [built, hb]
          have hmore : refused build part ((name, v) :: rest) =
              ⟨part, name, err⟩ :: refused build part rest := by
            simp [refused, hb]
          rw [hsame, hmore]
          cases skip with
          | false => rfl
          | true =>
              simp only [if_true, ih hrest hbefore']
              rfl

theorem addAll_eq_settle (skip : Bool) (part : DocumentSection)
    {buildIn : RuleDocument → String → Toml.Value → Except EntryError β}
    {add : RuleDocument → String → β → Except LoadError RuleDocument}
    (doc : List (String × β) → RuleDocument)
    (hbuild : ∀ before name v, buildIn (doc before) name v = build name v)
    (hadd : ∀ before name v b, (∀ e ∈ before, e.1 < name) → build name v = .ok b →
      add (doc before) name b = .ok (doc (before ++ [(name, b)])))
    {entries : List (String × Toml.Value)} (hsorted : entries.Pairwise fun a b => a.1 < b.1) :
    addAll skip part buildIn add (doc []) entries =
      settle skip (doc (built build entries)) (refused build part entries) := by
  have hnil : ∀ a ∈ ([] : List (String × β)), ∀ e ∈ entries, a.1 < e.1 := by simp
  simpa only [List.nil_append] using addAll_after skip part doc hbuild hadd hsorted hnil

end Entries

/-! ## Whole documents -/

/-- What some rules are expected to give. -/
def expected {ρ : Type} (kind : RuleKind) (rules : List (String × ρ × Option Value)) :
    List Expectation :=
  rules.filterMap fun e => e.2.2.map fun v => ⟨kind, e.1, v⟩

/-- The document of some stores and rules, each with its name. -/
def ofParts (envelope : Option Envelope) (stores : List (String × Store))
    (evals : List (String × Rule × Option Value))
    (lookups : List (String × LookupRule × Option Value)) : RuleDocument where
  rules :=
    { evals := .ofList (evals.map fun e => (e.1, e.2.1))
      lookups := .ofList (lookups.map fun e => (e.1, e.2.1))
      stores := ⟨.ofList stores⟩ }
  envelope := envelope
  expectations := expected .eval evals ++ expected .lookup lookups

/-- The stores that the entries of a document declare. -/
def registered (o : LoadOptions) (raw : RawDocument) : Registry :=
  ⟨.ofList (built (buildStore o) raw.stores.entries)⟩

/-- The document of all entries that can be built. -/
def fitting (o : LoadOptions) (raw : RawDocument) (envelope : Option Envelope) : RuleDocument :=
  ofParts envelope (built (buildStore o) raw.stores.entries)
    (built (fun _ => buildEval o) raw.evals.entries)
    (built (fun _ => buildLookup o (registered o raw)) raw.lookups.entries)

/-- The entries that cannot be built, in the order in which they are loaded. -/
def misfits (o : LoadOptions) (raw : RawDocument) : List Skipped :=
  refused (buildStore o) .store raw.stores.entries ++
    refused (fun _ => buildEval o) .eval raw.evals.entries ++
    refused (fun _ => buildLookup o (registered o raw)) .lookup raw.lookups.entries

theorem id_of_buildStore {o : LoadOptions} {id : String} {v : Toml.Value} {s : Store}
    (h : buildStore o id v = .ok s) : s.id = id := by
  obtain ⟨m, rfl | ⟨settings, rfl⟩⟩ := memory_of_buildStore h
  · rfl
  · rfl

variable {o : LoadOptions} {raw : RawDocument} {envelope : Option Envelope}

theorem expected_concat {ρ : Type} (kind : RuleKind) (rules : List (String × ρ × Option Value))
    (name : String) (r : ρ × Option Value) :
    expected kind (rules ++ [(name, r)]) =
      expected kind rules ++ (r.2.map fun v => ⟨kind, name, v⟩).toList := by
  cases h : r.2 <;> simp [expected, h]

/-- A store of a later name is not registered yet. -/
theorem addStore_ofParts {stores : List (String × Store)} {id : String} {v : Toml.Value} {s : Store}
    (hlt : ∀ e ∈ stores, e.1 < id) (hs : buildStore o id v = .ok s) :
    (ofParts envelope stores [] []).addStore s =
      .ok (ofParts envelope (stores ++ [(id, s)]) [] []) := by
  have hfree : (Table.ofList stores).contains id = false := by
    rw [← Bool.not_eq_true, Table.contains_iff]
    intro hmem
    obtain ⟨e, he, rfl⟩ := List.mem_map.mp hmem
    exact String.lt_irrefl _ (hlt e (Table.mem_of_mem_ofList he))
  have hinsert : (ofParts envelope stores [] []).rules.stores.insert s =
      .ok ⟨Table.ofList (stores ++ [(id, s)])⟩ := by
    rw [Registry.insert, id_of_buildStore hs, Table.ofList_concat]
    exact if_neg (by simpa [ofParts] using hfree)
  rw [addStore, hinsert]
  rfl

theorem addEval_ofParts (stores : List (String × Store))
    (evals : List (String × Rule × Option Value)) (name : String) (r : Rule × Option Value) :
    (ofParts envelope stores evals []).addEval name r =
      ofParts envelope stores (evals ++ [(name, r)]) [] := by
  have hnone : expected .lookup ([] : List (String × LookupRule × Option Value)) = [] := rfl
  simp [addEval, expect, ofParts, hnone, expected_concat, Table.ofList_concat]

theorem addLookup_ofParts (stores : List (String × Store))
    (evals : List (String × Rule × Option Value))
    (lookups : List (String × LookupRule × Option Value)) (name : String)
    (r : LookupRule × Option Value) :
    (ofParts envelope stores evals lookups).addLookup name r =
      ofParts envelope stores evals (lookups ++ [(name, r)]) := by
  simp [addLookup, expect, ofParts, expected_concat, Table.ofList_concat]

theorem addStores_eq_settle {entries : List (String × Toml.Value)}
    (hsorted : entries.Pairwise fun a b => a.1 < b.1) :
    addStores o (start envelope) entries =
      settle o.skipInvalid (ofParts envelope (built (buildStore o) entries) [] [])
        (refused (buildStore o) .store entries) :=
  addAll_eq_settle o.skipInvalid .store (fun l => ofParts envelope l [] []) (fun _ _ _ => rfl)
    (fun _ _ _ _ hlt hs => addStore_ofParts hlt hs) hsorted

theorem addEvals_eq_settle (stores : List (String × Store)) :
    addEvals o (ofParts envelope stores [] []) raw.evals.entries =
      settle o.skipInvalid
        (ofParts envelope stores (built (fun _ => buildEval o) raw.evals.entries) [])
        (refused (fun _ => buildEval o) .eval raw.evals.entries) :=
  addAll_eq_settle o.skipInvalid .eval (fun l => ofParts envelope stores l []) (fun _ _ _ => rfl)
    (fun _ _ _ _ _ _ => congrArg Except.ok (addEval_ofParts _ _ _ _)) raw.evals.sorted

theorem addLookups_eq_settle (evals : List (String × Rule × Option Value)) :
    addLookups o (ofParts envelope (built (buildStore o) raw.stores.entries) evals [])
        raw.lookups.entries =
      settle o.skipInvalid (ofParts envelope (built (buildStore o) raw.stores.entries) evals
          (built (fun _ => buildLookup o (registered o raw)) raw.lookups.entries))
        (refused (fun _ => buildLookup o (registered o raw)) .lookup raw.lookups.entries) :=
  addAll_eq_settle o.skipInvalid .lookup (fun l => ofParts envelope _ evals l) (fun _ _ _ => rfl)
    (fun _ _ _ _ _ _ => congrArg Except.ok (addLookup_ofParts _ _ _ _ _)) raw.lookups.sorted

@[simp] theorem settle_nil (skip : Bool) (d : RuleDocument) : settle skip d [] = .ok (d, []) := by
  cases skip <;> rfl

@[simp] theorem settle_true (d : RuleDocument) (bad : List Skipped) :
    settle true d bad = .ok (d, bad) := rfl

theorem eq_of_settle {skip : Bool} {d : RuleDocument} {bad : List Skipped}
    {r : RuleDocument × List Skipped} (h : settle skip d bad = .ok r) : r.1 = d := by
  cases bad with
  | nil =>
      rw [settle_nil] at h
      cases h
      rfl
  | cons s rest =>
      cases skip with
      | false => cases h
      | true =>
          cases h
          rfl

/-- A load gives the document of all entries that can be built, or the error of the first that
cannot. -/
theorem ofRaw_eq_settle (o : LoadOptions) (raw : RawDocument) :
    ofRaw o raw = (readEnvelope raw.envelope >>= fun envelope =>
      settle o.skipInvalid (fitting o raw envelope) (misfits o raw)) := by
  rw [ofRaw]
  cases readEnvelope raw.envelope with
  | error err => rfl
  | ok envelope =>
      simp only [Result.ok_bind, addStores_eq_settle raw.stores.sorted, misfits]
      cases hskip : o.skipInvalid with
      | true =>
          simp only [settle_true, Result.ok_bind, addEvals_eq_settle, addLookups_eq_settle, hskip]
          rfl
      | false =>
          -- The first part that refuses an entry makes the load fail.
          cases refused (buildStore o) .store raw.stores.entries with
          | cons s rest => rfl
          | nil =>
              simp only [settle_nil, Result.ok_bind, addEvals_eq_settle, hskip]
              cases refused (fun _ => buildEval o) .eval raw.evals.entries with
              | cons s rest => rfl
              | nil =>
                  simp only [settle_nil, Result.ok_bind, addLookups_eq_settle, hskip]
                  cases refused (fun _ => buildLookup o (registered o raw)) .lookup
                    raw.lookups.entries <;> rfl

end RuleDocument

/-! ## Entries of a document -/

/-- The entries that a document declares in a part. -/
def RawDocument.entries (raw : RawDocument) : DocumentSection → List (String × Toml.Value)
  | .store => raw.stores.entries
  | .eval => raw.evals.entries
  | .lookup => raw.lookups.entries

namespace RuleDocument

/-- Whether a loaded document has an entry of a name. -/
def has (d : RuleDocument) : DocumentSection → String → Bool
  | .store, id => d.rules.stores.contains id
  | .eval, name => d.rules.evals.contains name
  | .lookup, name => d.rules.lookups.contains name

/-- Whether a loaded document has an entry as it was declared: what the entry builds is there under
its name, and is expected to give what the entry says and nothing else. -/
def Present (o : LoadOptions) (d : RuleDocument) : DocumentSection → String → Toml.Value → Prop
  | .store, id, v => ∃ s, buildStore o id v = .ok s ∧ d.rules.stores.resolve id = some s
  | .eval, name, v => ∃ rule x, buildEval o v = .ok (rule, x) ∧
      d.rules.evals.find? name = some rule ∧
      ∀ value, ⟨.eval, name, value⟩ ∈ d.expectations ↔ x = some value
  | .lookup, name, v => ∃ rule x, buildLookup o d.rules.stores v = .ok (rule, x) ∧
      d.rules.lookups.find? name = some rule ∧
      ∀ value, ⟨.lookup, name, value⟩ ∈ d.expectations ↔ x = some value

/-- Whether an entry can be built among the stores of its document. -/
def Fits (o : LoadOptions) (raw : RawDocument) : DocumentSection → String → Toml.Value → Prop
  | .store, id, v => ∃ s, buildStore o id v = .ok s
  | .eval, _, v => ∃ r, buildEval o v = .ok r
  | .lookup, _, v => ∃ r, buildLookup o (registered o raw) v = .ok r

variable {o : LoadOptions} {raw : RawDocument} {envelope : Option Envelope}

theorem misfits_eq_nil_iff :
    misfits o raw = [] ↔
      ∀ part name v, (name, v) ∈ raw.entries part → Fits o raw part name v := by
  simp only [misfits, List.append_eq_nil_iff, refused_eq_nil_iff]
  constructor
  · rintro ⟨⟨hstores, hevals⟩, hlookups⟩ part
    cases part with
    | store => exact hstores
    | eval => exact hevals
    | lookup => exact hlookups
  · intro h
    exact ⟨⟨h .store, h .eval⟩, h .lookup⟩

/-! ### What is found -/

theorem pairwise_rules {ρ : Type} {rules : List (String × ρ × Option Value)}
    (h : rules.Pairwise fun a b => a.1 < b.1) :
    (rules.map fun e => (e.1, e.2.1)).Pairwise fun a b => a.1 < b.1 :=
  List.pairwise_map.mpr (h.imp fun hlt => hlt)

theorem names_rules {ρ : Type} {rules : List (String × ρ × Option Value)}
    (h : rules.Pairwise fun a b => a.1 < b.1) :
    (Table.ofList (rules.map fun e => (e.1, e.2.1))).names = rules.map Prod.fst := by
  rw [Table.names, Table.entries_ofList (pairwise_rules h), List.map_map]
  rfl

theorem find?_ofList_iff {α : Type} {l : List (String × α)} {name : String} {a : α}
    (h : l.Pairwise fun a b => a.1 < b.1) :
    (Table.ofList l).find? name = some a ↔ (name, a) ∈ l := by
  rw [Table.find?_eq_some_iff, Table.entries_ofList h]

theorem find?_rules_iff {ρ : Type} {rules : List (String × ρ × Option Value)} {name : String}
    {rule : ρ} (h : rules.Pairwise fun a b => a.1 < b.1) :
    (Table.ofList (rules.map fun e => (e.1, e.2.1))).find? name = some rule ↔
      ∃ x, (name, (rule, x)) ∈ rules := by
  rw [find?_ofList_iff (pairwise_rules h)]
  simp

theorem mem_expected_iff {ρ : Type} {kind kind' : RuleKind} {name : String} {value : Value}
    {rules : List (String × ρ × Option Value)} :
    ⟨kind', name, value⟩ ∈ expected kind rules ↔
      kind' = kind ∧ ∃ rule, (name, (rule, some value)) ∈ rules := by
  simp only [expected, List.mem_filterMap, Option.map_eq_some_iff, Expectation.mk.injEq,
    Prod.exists]
  constructor
  · rintro ⟨n, rule, x, hmem, v, rfl, rfl, rfl, rfl⟩
    exact ⟨rfl, rule, hmem⟩
  · rintro ⟨rfl, rule, hmem⟩
    exact ⟨name, rule, some value, hmem, value, rfl, rfl, rfl, rfl⟩

/-- A rule is expected to give only what its own entry says. -/
theorem expected_of_mem {ρ : Type} {rules : List (String × ρ × Option Value)} {name : String}
    {rule : ρ} {x : Option Value} (h : rules.Pairwise fun a b => a.1 < b.1)
    (hmem : (name, (rule, x)) ∈ rules) (value : Value) :
    (∃ rule', (name, (rule', some value)) ∈ rules) ↔ x = some value := by
  constructor
  · rintro ⟨rule', hmem'⟩
    cases Table.eq_of_mem_of_mem h hmem hmem'
    rfl
  · rintro rfl
    exact ⟨rule, hmem⟩

theorem has_fitting_iff {part : DocumentSection} {name : String} :
    (fitting o raw envelope).has part name ↔
      ∃ v, (name, v) ∈ raw.entries part ∧ Fits o raw part name v := by
  cases part with
  | store =>
      have hsorted := pairwise_built (buildStore o) raw.stores.sorted
      refine Table.contains_iff.trans ?_
      rw [fitting, ofParts, Table.names, Table.entries_ofList hsorted]
      exact mem_names_built_iff
  | eval =>
      refine Table.contains_iff.trans ?_
      rw [fitting, ofParts, names_rules (pairwise_built _ raw.evals.sorted)]
      exact mem_names_built_iff
  | lookup =>
      refine Table.contains_iff.trans ?_
      rw [fitting, ofParts, names_rules (pairwise_built _ raw.lookups.sorted)]
      exact mem_names_built_iff

/-- An entry that can be built is present in the document of all such entries. -/
theorem present_of_fits {part : DocumentSection} {name : String} {v : Toml.Value}
    (hmem : (name, v) ∈ raw.entries part) (h : Fits o raw part name v) :
    Present o (fitting o raw envelope) part name v := by
  cases part with
  | store =>
      obtain ⟨s, hs⟩ := h
      refine ⟨s, hs, (find?_ofList_iff (pairwise_built _ raw.stores.sorted)).mpr ?_⟩
      exact mem_built_iff.mpr ⟨v, hmem, hs⟩
  | eval =>
      obtain ⟨⟨rule, x⟩, hr⟩ := h
      have hsorted := pairwise_built (fun _ => buildEval o) raw.evals.sorted
      have hbuilt : (name, (rule, x)) ∈ built (fun _ => buildEval o) raw.evals.entries :=
        mem_built_iff.mpr ⟨v, hmem, hr⟩
      refine ⟨rule, x, hr, (find?_rules_iff hsorted).mpr ⟨x, hbuilt⟩, fun value => ?_⟩
      rw [← expected_of_mem hsorted hbuilt]
      simp [fitting, ofParts, mem_expected_iff]
  | lookup =>
      obtain ⟨⟨rule, x⟩, hr⟩ := h
      have hsorted := pairwise_built (fun _ => buildLookup o (registered o raw)) raw.lookups.sorted
      have hbuilt : (name, (rule, x)) ∈
          built (fun _ => buildLookup o (registered o raw)) raw.lookups.entries :=
        mem_built_iff.mpr ⟨v, hmem, hr⟩
      refine ⟨rule, x, hr, (find?_rules_iff hsorted).mpr ⟨x, hbuilt⟩, fun value => ?_⟩
      rw [← expected_of_mem hsorted hbuilt]
      simp [fitting, ofParts, mem_expected_iff]

end RuleDocument
end EnvelopeRules
