import EnvelopeRules.Document.Load
import EnvelopeRules.Proofs.Engine.Rulebook
import EnvelopeRules.Proofs.Result
import EnvelopeRules.Proofs.Table

/-!
# Loaded documents

What holds of every document that is loaded, whatever the options.  Each entry that is added keeps
it, so it is shown for one entry of each part.
-/

namespace EnvelopeRules

/-- What a load checks of the rules and stores of a document. -/
structure RuleSet.Checked (r : RuleSet) : Prop where
  members : ∃ members, r.stores.Holds members
  declared : ∀ {name rule id}, r.lookups.find? name = some rule → id ∈ rule.staticStores →
    r.stores.contains id
  fallback : ∀ {name rule v}, r.lookups.find? name = some rule → rule.rule.fallback? = some v →
    ∃ id, v = .text id

theorem RuleSet.Checked.serves {r : RuleSet} (h : r.Checked) :
    ∃ members, r.Serves ⟨r.evals, r.lookups, members⟩ := by
  obtain ⟨members, hm⟩ := h.members
  exact ⟨members, rfl, rfl, hm⟩

theorem RuleSet.checked_empty : RuleSet.empty.Checked :=
  ⟨⟨_, Registry.holds_empty⟩, fun h => (by cases h), fun h => (by cases h)⟩

theorem Registry.contains_of_insert {r r' : Registry} {s : Store} {id : String}
    (h : r.insert s = .ok r') (hid : r.contains id) : r'.contains id := by
  rw [Registry.insert] at h
  split at h
  · cases h
  · cases h
    rw [contains] at hid
    rw [contains, Table.contains_insert, hid, Bool.or_true]

theorem LookupRule.make_eq_ok {rule : Rule} {key : Option Template} {r : LookupRule}
    (h : make rule key = .ok r) :
    r = ⟨rule, key⟩ ∧ ∀ v, rule.fallback? = some v → ∃ id, v = .text id := by
  rw [make] at h
  split at h
  · rename_i hnone
    cases h
    exact ⟨rfl, fun v hv => by cases hnone.symm.trans hv⟩
  · rename_i id hsome
    cases h
    refine ⟨rfl, fun v hv => ⟨id, ?_⟩⟩
    rw [hsome] at hv
    cases hv
    rfl
  · cases h

namespace RuleDocument

/-! ## Entries -/

theorem exists_memory_of_buildStore {o : LoadOptions} {id : String} {v : Toml.Value} {s : Store}
    (h : buildStore o id v = .ok s) : ∃ m, s.Holds m := by
  obtain ⟨m, rfl | ⟨settings, rfl⟩⟩ := memory_of_buildStore h
  · exact ⟨m, Store.holds_ofMemory id m⟩
  · exact ⟨m, (Store.holds_ofMemory id m).cached settings⟩

theorem checked_addStore {d d' : RuleDocument} {s : Store} {m : Memory} (hd : d.rules.Checked)
    (hm : s.Holds m) (h : d.addStore s = .ok d') : d'.rules.Checked := by
  rw [addStore] at h
  split at h
  · cases h
  · rename_i stores hstores
    cases h
    obtain ⟨members, hmembers⟩ := hd.members
    exact ⟨⟨_, hmembers.insert hm hstores⟩,
      fun hfind hid => Registry.contains_of_insert hstores (hd.declared hfind hid), hd.fallback⟩

theorem checked_addEval {d : RuleDocument} (hd : d.rules.Checked) (name : String)
    (r : Rule × Option Value) : (d.addEval name r).rules.Checked :=
  ⟨hd.members, hd.declared, hd.fallback⟩

theorem checked_of_buildLookup {o : LoadOptions} {stores : Registry} {v : Toml.Value}
    {r : LookupRule × Option Value} (h : buildLookup o stores v = .ok r) :
    (∀ id ∈ r.1.staticStores, stores.contains id) ∧
      ∀ v, r.1.rule.fallback? = some v → ∃ id, v = .text id := by
  rw [buildLookup] at h
  split at h
  · cases h
  · obtain ⟨key, _, h⟩ := Result.bind_eq_ok_iff.mp h
    obtain ⟨rule, _, h⟩ := Result.bind_eq_ok_iff.mp h
    obtain ⟨lookup, hmake, h⟩ := Result.bind_eq_ok_iff.mp h
    split at h
    · cases h
    · rename_i hnone
      obtain ⟨_, _, h⟩ := Result.bind_eq_ok_iff.mp h
      cases h
      obtain ⟨rfl, hfallback⟩ := LookupRule.make_eq_ok hmake
      refine ⟨fun id hid => ?_, hfallback⟩
      simpa using List.find?_eq_none.mp hnone id hid

theorem checked_addLookup {o : LoadOptions} {d : RuleDocument} {name : String} {v : Toml.Value}
    {r : LookupRule × Option Value} (hd : d.rules.Checked)
    (hr : buildLookup o d.rules.stores v = .ok r) : (d.addLookup name r).rules.Checked := by
  obtain ⟨hdeclared, hfallback⟩ := checked_of_buildLookup hr
  refine ⟨hd.members, fun {other rule id} hfind hid => ?_, fun {other rule v} hfind hv => ?_⟩
  · rcases Table.find?_insert_eq_some hfind with rfl | hfind
    · exact hdeclared id hid
    · exact hd.declared hfind hid
  · rcases Table.find?_insert_eq_some hfind with rfl | hfind
    · exact hfallback v hv
    · exact hd.fallback hfind hv

/-! ## Whole documents -/

/-- What every added entry keeps is kept by all of them, whether or not some are left out. -/
theorem invariant_of_addAll {β : Type} {skip : Bool} {part : DocumentSection}
    {build : RuleDocument → String → Toml.Value → Except EntryError β}
    {add : RuleDocument → String → β → Except LoadError RuleDocument}
    (keeps : RuleDocument → Prop)
    (hadd : ∀ {d d' name v b}, keeps d → build d name v = .ok b → add d name b = .ok d' → keeps d')
    {entries : List (String × Toml.Value)} {d d' : RuleDocument} {skipped : List Skipped}
    (hd : keeps d) (h : addAll skip part build add d entries = .ok (d', skipped)) : keeps d' := by
  induction entries generalizing d skipped with
  | nil =>
      cases h
      exact hd
  | cons entry rest ih =>
      obtain ⟨name, v⟩ := entry
      rw [addAll] at h
      split at h
      · rename_i b hb
        obtain ⟨d₁, hd₁, h⟩ := Result.bind_eq_ok_iff.mp h
        exact ih (hadd hd hb hd₁) h
      · split at h
        · obtain ⟨r, hr, he⟩ := Result.map_eq_ok_iff.mp h
          cases he
          exact ih hd hr
        · cases h

theorem checked_of_addStores {o : LoadOptions} {entries : List (String × Toml.Value)}
    {d d' : RuleDocument} {skipped : List Skipped} (hd : d.rules.Checked)
    (h : addStores o d entries = .ok (d', skipped)) : d'.rules.Checked := by
  refine invariant_of_addAll (·.rules.Checked) ?_ hd h
  intro d d' id v s hd hs hadd
  obtain ⟨m, hm⟩ := exists_memory_of_buildStore hs
  exact checked_addStore hd hm hadd

theorem checked_of_addEvals {o : LoadOptions} {entries : List (String × Toml.Value)}
    {d d' : RuleDocument} {skipped : List Skipped} (hd : d.rules.Checked)
    (h : addEvals o d entries = .ok (d', skipped)) : d'.rules.Checked := by
  refine invariant_of_addAll (·.rules.Checked) ?_ hd h
  intro d d' name v r hd _ hadd
  cases hadd
  exact checked_addEval hd name r

theorem checked_of_addLookups {o : LoadOptions} {entries : List (String × Toml.Value)}
    {d d' : RuleDocument} {skipped : List Skipped} (hd : d.rules.Checked)
    (h : addLookups o d entries = .ok (d', skipped)) : d'.rules.Checked := by
  refine invariant_of_addAll (·.rules.Checked) ?_ hd h
  intro d d' name v r hd hr hadd
  cases hadd
  exact checked_addLookup hd hr

theorem checked_of_ofRaw {o : LoadOptions} {raw : RawDocument} {d : RuleDocument}
    {skipped : List Skipped} (h : ofRaw o raw = .ok (d, skipped)) : d.rules.Checked := by
  rw [ofRaw] at h
  obtain ⟨envelope, _, h⟩ := Result.bind_eq_ok_iff.mp h
  obtain ⟨⟨d₁, _⟩, hstores, h⟩ := Result.bind_eq_ok_iff.mp h
  obtain ⟨⟨d₂, _⟩, hevals, h⟩ := Result.bind_eq_ok_iff.mp h
  obtain ⟨⟨d₃, _⟩, hlookups, h⟩ := Result.bind_eq_ok_iff.mp h
  cases h
  have hstart : (start envelope).rules.Checked := RuleSet.checked_empty
  exact checked_of_addLookups (checked_of_addEvals (checked_of_addStores hstart hstores) hevals)
    hlookups

/-- The rules of a loaded document have passed the checks, whether or not entries were left out. -/
theorem checked_of_parse {o : LoadOptions} {text : String} {d : RuleDocument}
    (h : parse o text = .ok d) : d.rules.Checked := by
  obtain ⟨r, hr, rfl⟩ := Result.map_eq_ok_iff.mp h
  rw [load] at hr
  split at hr
  · cases hr
  · exact checked_of_ofRaw hr

end RuleDocument
end EnvelopeRules
