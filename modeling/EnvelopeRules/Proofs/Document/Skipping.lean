import EnvelopeRules.Proofs.Document.Fitting
import Mathlib.Tactic.Push

/-!
# Leaving out bad entries

A load that leaves out bad entries and one that does not differ only in whether they fail.  Both
give the same document once the bad entries are gone, and with a bad store go the rules that ask it.
-/

namespace EnvelopeRules

/-- The entries whose names are kept. -/
def Table.filter {α : Type} (p : String → Bool) (t : Table α) : Table α :=
  ⟨t.entries.filter fun e => p e.1, t.sorted.filter _⟩

/-- The document with only those entries that are kept. -/
def RawDocument.keep (raw : RawDocument) (p : DocumentSection → String → Bool) : RawDocument :=
  { raw with
    stores := raw.stores.filter (p .store)
    evals := raw.evals.filter (p .eval)
    lookups := raw.lookups.filter (p .lookup) }

def LoadOptions.strict (o : LoadOptions) : LoadOptions := { o with skipInvalid := false }

def LoadOptions.skipping (o : LoadOptions) : LoadOptions := { o with skipInvalid := true }

namespace RuleDocument

/-! ## Documents without the entries that were left out -/

variable {o : LoadOptions} {raw : RawDocument} {envelope : Option Envelope}

theorem has_of_fits (part : DocumentSection) {name : String} {v : Toml.Value}
    (hmem : (name, v) ∈ raw.entries part) (h : Fits o raw part name v) :
    (fitting o raw envelope).has part name :=
  has_fitting_iff.mpr ⟨v, hmem, h⟩

theorem fits_of_has {part : DocumentSection} {name : String} {v : Toml.Value}
    (hmem : (name, v) ∈ raw.entries part) (h : (fitting o raw envelope).has part name) :
    Fits o raw part name v := by
  obtain ⟨w, hmem', hfits⟩ := has_fitting_iff.mp h
  have hsorted : (raw.entries part).Pairwise fun a b => a.1 < b.1 := by
    cases part with
    | store => exact raw.stores.sorted
    | eval => exact raw.evals.sorted
    | lookup => exact raw.lookups.sorted
  exact Table.eq_of_mem_of_mem hsorted hmem' hmem ▸ hfits

section Filter

variable {β : Type} {build : String → Toml.Value → Except EntryError β}

/-- Entries that cannot be built may be taken away before. -/
theorem built_filter {p : String → Bool} {entries : List (String × Toml.Value)}
    (h : ∀ name v b, (name, v) ∈ entries → build name v = .ok b → p name) :
    built build (entries.filter fun e => p e.1) = built build entries := by
  rw [built, built, List.filterMap_filter]
  refine List.filterMap_congr fun e he => ?_
  split
  · rfl
  · rename_i hp
    split
    · rename_i b hb
      exact absurd (h e.1 e.2 b he hb) hp
    · rfl

end Filter

theorem registered_keep :
    registered o (raw.keep (fitting o raw envelope).has) = registered o raw := by
  have hstores : built (buildStore o) (raw.keep (fitting o raw envelope).has).stores.entries =
      built (buildStore o) raw.stores.entries :=
    built_filter fun name v s hmem hs => has_of_fits .store hmem ⟨s, hs⟩
  rw [registered, registered, hstores]

theorem fitting_keep :
    fitting o (raw.keep (fitting o raw envelope).has) envelope = fitting o raw envelope := by
  have hstores : built (buildStore o) (raw.keep (fitting o raw envelope).has).stores.entries =
      built (buildStore o) raw.stores.entries :=
    built_filter fun name v s hmem hs => has_of_fits .store hmem ⟨s, hs⟩
  have hevals : built (fun _ => buildEval o) (raw.keep (fitting o raw envelope).has).evals.entries =
      built (fun _ => buildEval o) raw.evals.entries :=
    built_filter fun name v r hmem hr => has_of_fits .eval hmem ⟨r, hr⟩
  have hlookups : built (fun _ => buildLookup o (registered o raw))
        (raw.keep (fitting o raw envelope).has).lookups.entries =
      built (fun _ => buildLookup o (registered o raw)) raw.lookups.entries :=
    built_filter fun name v r hmem hr => has_of_fits .lookup hmem ⟨r, hr⟩
  rw [fitting, registered_keep, hstores, hevals, hlookups, ← fitting]

theorem mem_entries_keep {p : DocumentSection → String → Bool} {part : DocumentSection}
    {name : String} {v : Toml.Value} (h : (name, v) ∈ (raw.keep p).entries part) :
    (name, v) ∈ raw.entries part ∧ p part name := by
  cases part <;> exact List.mem_filter.mp h

theorem misfits_keep : misfits o (raw.keep (fitting o raw envelope).has) = [] := by
  rw [misfits_eq_nil_iff]
  intro part name v hmem
  obtain ⟨hmem, hhas⟩ := mem_entries_keep hmem
  have hfits := fits_of_has hmem hhas
  cases part with
  | store => exact hfits
  | eval => exact hfits
  | lookup =>
      rw [Fits, registered_keep]
      exact hfits

theorem misfits_ne_nil_iff :
    misfits o raw ≠ [] ↔ ∃ part name v, (name, v) ∈ raw.entries part ∧
      (fitting o raw envelope).has part name = false := by
  rw [Ne, misfits_eq_nil_iff]
  push Not
  constructor
  · rintro ⟨part, name, v, hmem, hmisfit⟩
    refine ⟨part, name, v, hmem, ?_⟩
    rw [← Bool.not_eq_true]
    intro hhas
    exact hmisfit (fits_of_has hmem hhas)
  · rintro ⟨part, name, v, hmem, hhas⟩
    refine ⟨part, name, v, hmem, fun hfits => ?_⟩
    rw [has_of_fits part hmem hfits] at hhas
    cases hhas

/-! ## Both ways to load -/

theorem ofRaw_skipping (h : readEnvelope raw.envelope = .ok envelope) :
    ofRaw o.skipping raw = .ok (fitting o raw envelope, misfits o raw) := by
  rw [ofRaw_eq_settle, h]
  rfl

theorem ofRaw_strict (h : readEnvelope raw.envelope = .ok envelope) :
    ofRaw o.strict raw = settle false (fitting o raw envelope) (misfits o raw) := by
  rw [ofRaw_eq_settle, h]
  rfl

theorem ofRaw_strict_keep (h : readEnvelope raw.envelope = .ok envelope) :
    ofRaw o.strict (raw.keep (fitting o raw envelope).has) = .ok (fitting o raw envelope, []) := by
  have hkept : readEnvelope (raw.keep (fitting o raw envelope).has).envelope = .ok envelope := h
  rw [ofRaw_strict hkept, fitting_keep, misfits_keep, settle_nil]

theorem parse_of_parse? {text : String} (h : RawDocument.parse? text = some raw) :
    parse o text = (ofRaw o raw).map Prod.fst := by
  rw [parse, load, h]

/-- Both ways to load agree.  One that leaves out bad entries always gives a document; one that does
not gives the same document if no entry is bad and fails otherwise; and it gives that document also
when the bad entries are taken away before. -/
theorem load_policies_agree {text : String} {raw : RawDocument} {envelope : Option Envelope}
    (hraw : RawDocument.parse? text = some raw)
    (henvelope : readEnvelope raw.envelope = .ok envelope) (o : LoadOptions) :
    ∃ d, parse o.skipping text = .ok d ∧
      (∀ d', parse o.strict text = .ok d' → d' = d ∧
        ∀ part name v, (name, v) ∈ raw.entries part → Present o d part name v) ∧
      ((∃ err, parse o.strict text = .error err) ↔
        ∃ part name v, (name, v) ∈ raw.entries part ∧ d.has part name = false) ∧
      (∀ part name v, (name, v) ∈ raw.entries part → d.has part name →
        Present o d part name v) ∧
      ofRaw o.strict (raw.keep d.has) = .ok (d, []) ∧
      ∀ text', RawDocument.parse? text' = some (raw.keep d.has) → parse o.strict text' = .ok d := by
  have hstrict : parse o.strict text =
      (settle false (fitting o raw envelope) (misfits o raw)).map Prod.fst := by
    rw [parse_of_parse? hraw, ofRaw_strict henvelope]
  refine ⟨fitting o raw envelope, ?_, ?_, ?_, ?_, ofRaw_strict_keep henvelope, ?_⟩
  · rw [parse_of_parse? hraw, ofRaw_skipping henvelope]
    rfl
  · intro d' hd'
    rw [hstrict] at hd'
    cases hbad : misfits o raw with
    | cons s rest =>
        rw [hbad] at hd'
        cases hd'
    | nil =>
        rw [hbad] at hd'
        cases hd'
        refine ⟨rfl, fun part name v hmem => ?_⟩
        exact present_of_fits hmem (misfits_eq_nil_iff.mp hbad part name v hmem)
  · rw [hstrict, ← misfits_ne_nil_iff]
    cases misfits o raw <;> simp [settle, Except.map]
  · intro part name v hmem hhas
    exact present_of_fits hmem (fits_of_has hmem hhas)
  · intro text' htext'
    rw [parse_of_parse? htext', ofRaw_strict_keep henvelope]
    rfl

/-- A store and a rule that asks it. -/
def soundRules : String :=
  "[store]\nmx = [\"memory\", \"list\"]\n\n[maybe-eval]\nfind = [\"mx\"]\n"

/-- The same with a store of an unknown type and a rule that asks this one. -/
def mixedRules : String :=
  "[store]\nmx = [\"memory\", \"list\"]\nold = [\"sql\", \"list\"]\n\n" ++
  "[maybe-eval]\nask = [\"old\"]\nfind = [\"mx\"]\n"

def mixedEntries : RawDocument where
  envelope := none
  stores := .ofList [("mx", .array [.text "memory", .text "list"]),
    ("old", .array [.text "sql", .text "list"])]
  evals := .empty
  lookups := .ofList [("ask", .array [.text "old"]), ("find", .array [.text "mx"])]

/-- The rule that asks the bad store goes with it, and then the load is that of the sound rules. -/
theorem load_policies_agree_on_mixed :
    RawDocument.parse? mixedRules = some mixedEntries ∧
    readEnvelope mixedEntries.envelope = .ok none ∧
    ∃ d, parse LoadOptions.default.skipping mixedRules = .ok d ∧
      (∃ err, parse LoadOptions.default.strict mixedRules = .error err) ∧
      d.has .store "old" = false ∧ d.has .lookup "ask" = false ∧ d.has .lookup "find" = true ∧
      parse LoadOptions.default.strict soundRules = .ok d := by
  have hraw : RawDocument.parse? mixedRules = some mixedEntries := by decide +kernel
  have henvelope : readEnvelope mixedEntries.envelope = .ok none := rfl
  obtain ⟨d, hd, _, hfails, _, _, hsound⟩ := load_policies_agree hraw henvelope .default
  have hfitting : d = fitting .default mixedEntries none := by
    rw [parse_of_parse? hraw, ofRaw_skipping henvelope] at hd
    cases hd
    rfl
  subst hfitting
  have hold : (fitting .default mixedEntries none).has .store "old" = false := by decide +kernel
  refine ⟨hraw, henvelope, _, hd, ?_, hold, by decide +kernel, by decide +kernel, ?_⟩
  · have hmem : ("old", .array [.text "sql", .text "list"]) ∈ mixedEntries.entries .store :=
      Table.mem_of_lookup rfl
    exact hfails.mpr ⟨.store, "old", _, hmem, hold⟩
  · exact hsound soundRules (by decide +kernel)

end RuleDocument
end EnvelopeRules
