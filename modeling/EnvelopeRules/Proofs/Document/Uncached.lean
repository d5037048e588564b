import EnvelopeRules.Document.Load
import EnvelopeRules.Proofs.Engine.Rulebook
import EnvelopeRules.Proofs.Result

/-!
# Documents without caches

Whether the stores of a document get caches changes nothing else in what is loaded: a load without
caches gives the same document, or the same error, with the caches taken away.
-/

namespace EnvelopeRules

def LoadOptions.uncached (o : LoadOptions) : LoadOptions := { o with cache := none }

def Store.uncached (s : Store) : Store := { s with cache := none }

theorem Store.Holds.uncached {s : Store} {m : Memory} (h : s.Holds m) : s.uncached.Holds m :=
  ⟨h.backend, fun hc => by cases hc⟩

/-! ## Registered stores -/

namespace Registry

def uncached (r : Registry) : Registry := ⟨r.stores.mapValues fun _ s => s.uncached⟩

theorem resolve_uncached (r : Registry) (id : String) :
    r.uncached.resolve id = (r.resolve id).map Store.uncached :=
  Table.find?_mapValues _ _ _

theorem contains_uncached (r : Registry) (id : String) :
    r.uncached.contains id = r.contains id := by
  have hresolve := resolve_uncached r id
  rw [resolve, resolve] at hresolve
  rw [contains, contains, Table.contains, Table.contains, hresolve, Option.isSome_map]

theorem insert_uncached (r : Registry) (s : Store) :
    r.uncached.insert s.uncached = (r.insert s).map uncached := by
  have hc := contains_uncached r s.id
  rw [contains, contains] at hc
  have hput := Table.mapValues_insert (fun _ (s : Store) => s.uncached) r.stores s.id s
  have hid : s.uncached.id = s.id := rfl
  rw [Registry.insert, Registry.insert, hid, hc]
  split
  · rfl
  · rw [Except.map, uncached, uncached, hput]

theorem Holds.uncached {r : Registry} {members : String → Option Memory} (h : r.Holds members) :
    r.uncached.Holds members := by
  refine ⟨fun habsent => ?_, fun hpresent => ?_⟩
  · rw [resolve_uncached, Option.map_eq_none_iff] at habsent
    exact h.absent habsent
  · rw [resolve_uncached, Option.map_eq_some_iff] at hpresent
    obtain ⟨s, hs, rfl⟩ := hpresent
    obtain ⟨m, hm, hholds⟩ := h.present hs
    exact ⟨m, hm, hholds.uncached⟩

end Registry

def RuleSet.uncached (r : RuleSet) : RuleSet := { r with stores := r.stores.uncached }

theorem RuleSet.Serves.uncached {r : RuleSet} {b : Rulebook} (h : r.Serves b) :
    r.uncached.Serves b :=
  ⟨h.evals, h.lookups, h.stores.uncached⟩

/-! ## Loading -/

namespace RuleDocument

def uncached (d : RuleDocument) : RuleDocument := { d with rules := d.rules.uncached }

theorem buildStore_uncached (o : LoadOptions) (id : String) (v : Toml.Value) :
    buildStore o.uncached id v = (buildStore o id v).map Store.uncached := by
  rw [buildStore, buildStore]
  cases StoreEntry.ofValue? v with
  | none => rfl
  | some entry =>
      dsimp only
      rw [Store.create]
      split
      · rename_i e he
        split at he <;> cases he
        rfl
      · rename_i s hs
        split at hs <;> cases hs
        cases ho : o.cache <;> rfl

theorem addStore_uncached (d : RuleDocument) (s : Store) :
    d.uncached.addStore s.uncached = (d.addStore s).map uncached := by
  have hinsert : d.uncached.rules.stores.insert s.uncached =
      (d.rules.stores.insert s).map Registry.uncached := d.rules.stores.insert_uncached s
  rw [addStore, addStore, hinsert]
  cases d.rules.stores.insert s <;> rfl

theorem buildLookup_uncached (o : LoadOptions) (stores : Registry) (v : Toml.Value) :
    buildLookup o.uncached stores.uncached v = buildLookup o stores v := by
  have hundeclared : undeclared? stores.uncached = undeclared? stores := by
    funext rule
    simp only [undeclared?, Registry.contains_uncached]
  rw [buildLookup, buildLookup, hundeclared]
  rfl

/-- A change of documents and of what entries build that commutes with adding an entry commutes with
adding all of them. -/
theorem addAll_map {β : Type} {skip : Bool} {part : DocumentSection}
    {build build' : RuleDocument → String → Toml.Value → Except EntryError β}
    {add add' : RuleDocument → String → β → Except LoadError RuleDocument}
    {f : RuleDocument → RuleDocument} {g : β → β}
    (hbuild : ∀ d name v, build' (f d) name v = (build d name v).map g)
    (hadd : ∀ d name b, add' (f d) name (g b) = (add d name b).map f)
    (entries : List (String × Toml.Value)) (d : RuleDocument) :
    addAll skip part build' add' (f d) entries =
      (addAll skip part build add d entries).map fun r => (f r.1, r.2) := by
  induction entries generalizing d with
  | nil => rfl
  | cons entry rest ih =>
      obtain ⟨name, v⟩ := entry
      rw [addAll, addAll, hbuild]
      cases build d name v with
      | ok b =>
          simp only [Except.map, hadd]
          cases add d name b with
          | ok d => exact ih d
          | error e => rfl
      | error e =>
          cases skip with
          | false => rfl
          | true =>
              simp only [Except.map, if_pos, ih]
              cases addAll true part build add d rest <;> rfl

theorem addStores_uncached (o : LoadOptions) (d : RuleDocument)
    (entries : List (String × Toml.Value)) :
    addStores o.uncached d.uncached entries =
      (addStores o d entries).map fun r => (r.1.uncached, r.2) :=
  addAll_map (fun _ => buildStore_uncached o) (fun d _ => addStore_uncached d) entries d

theorem addEvals_uncached (o : LoadOptions) (d : RuleDocument)
    (entries : List (String × Toml.Value)) :
    addEvals o.uncached d.uncached entries =
      (addEvals o d entries).map fun r => (r.1.uncached, r.2) := by
  have hbuild : ∀ v, buildEval o.uncached v = (buildEval o v).map id := by
    intro v
    rw [Except.map_id]
    rfl
  exact addAll_map (fun _ _ => hbuild) (fun _ _ _ => rfl) entries d

theorem addLookups_uncached (o : LoadOptions) (d : RuleDocument)
    (entries : List (String × Toml.Value)) :
    addLookups o.uncached d.uncached entries =
      (addLookups o d entries).map fun r => (r.1.uncached, r.2) := by
  have hbuild : ∀ (d : RuleDocument) v, buildLookup o.uncached d.uncached.rules.stores v =
      (buildLookup o d.rules.stores v).map id := by
    intro d v
    rw [Except.map_id]
    exact buildLookup_uncached o d.rules.stores v
  exact addAll_map (fun d _ => hbuild d) (fun _ _ _ => rfl) entries d

theorem ofRaw_uncached (o : LoadOptions) (raw : RawDocument) :
    ofRaw o.uncached raw = (ofRaw o raw).map fun r => (r.1.uncached, r.2) := by
  rw [ofRaw, ofRaw]
  cases readEnvelope raw.envelope with
  | error e => rfl
  | ok envelope =>
      have hstart : start envelope = (start envelope).uncached := rfl
      -- Each part is loaded into the document that the part before it left.
      simp only [Result.ok_bind]
      rw [hstart, addStores_uncached, ← hstart]
      cases addStores o (start envelope) raw.stores.entries with
      | error e => rfl
      | ok r =>
          simp only [Except.map, Result.ok_bind, addEvals_uncached]
          cases addEvals o r.1 raw.evals.entries with
          | error e => rfl
          | ok r =>
              simp only [Except.map, Result.ok_bind, addLookups_uncached]
              cases addLookups o r.1 raw.lookups.entries <;> rfl

/-- A load without caches gives what a load with caches gives, without the caches. -/
theorem parse_uncached (o : LoadOptions) (text : String) :
    parse o.uncached text = (parse o text).map uncached := by
  rw [parse, parse, load, load]
  cases RawDocument.parse? text with
  | none => rfl
  | some raw =>
      simp only [ofRaw_uncached]
      cases ofRaw o raw <;> rfl

end RuleDocument
end EnvelopeRules
