import EnvelopeRules.Envelope.OfTable
import EnvelopeRules.Proofs.Net.Spelling
import EnvelopeRules.Proofs.Table
import Mathlib.Data.List.TFAE

/-!
# Envelopes read from tables

A table is read as an envelope if every entry names a field and has a value for it.  Each field then
has the value of its entry, which is of the kind of the field, and the texts of the values are read
as the same envelope.
-/

namespace EnvelopeRules

/-! ## Values -/

namespace FieldValue

inductive HasKind : FieldKind → FieldValue → Prop
  | domain (s : String) : HasKind .domain (.text s)
  | mailbox (s : String) : HasKind .mailbox (.text s)
  | address (a : Address) : HasKind .address (.address a)
  | integer (n : Int64) : HasKind .integer (.integer n)
  | id (n : UInt64) : HasKind .id (.id n)

theorem ofEntry?_render {k : FieldKind} {v : FieldValue} (h : HasKind k v) :
    ofEntry? k (.text v.render) = some v := by
  cases h with
  | domain s => rfl
  | mailbox s => rfl
  | address a =>
      have hread := Address.parse?_text a
      simp [render, ofEntry?, hread]
  | integer n =>
      have hread := Decimal.int64?_ofInt64 n
      simp [render, ofEntry?, hread]
  | id n =>
      have hread := Decimal.uint64?_ofUInt64 n
      simp [render, ofEntry?, hread]

theorem hasKind_of_ofEntry? {k : FieldKind} {w : Toml.Value} {v : FieldValue}
    (h : ofEntry? k w = some v) : HasKind k v := by
  unfold ofEntry? at h
  split at h
  · cases h
    exact .domain _
  · cases h
    exact .mailbox _
  · obtain ⟨a, _, rfl⟩ := Option.map_eq_some_iff.mp h
    exact .address a
  · cases h
    exact .integer _
  · obtain ⟨n, _, rfl⟩ := Option.map_eq_some_iff.mp h
    exact .integer n
  · split at h
    · cases h
      exact .id _
    · cases h
  · obtain ⟨n, _, rfl⟩ := Option.map_eq_some_iff.mp h
    exact .id n
  · cases h

end FieldValue

namespace Envelope

/-! ## Entries -/

/-- Whether an entry names a field and has a value for it. -/
def Readable (name : String) (w : Toml.Value) : Prop :=
  ∃ (f : Field) (v : FieldValue), f.name = name ∧ FieldValue.ofEntry? f.kind w = some v

theorem putEntry_eq_ok_iff {e e' : Envelope} {name : String} {w : Toml.Value} :
    e.putEntry name w = .ok e' ↔
      ∃ (f : Field) (v : FieldValue), f.name = name ∧ FieldValue.ofEntry? f.kind w = some v ∧
        e.put f v = e' := by
  constructor
  · intro h
    rw [putEntry] at h
    split at h
    · cases h
    · rename_i f hf
      split at h
      · rename_i v hv
        cases h
        exact ⟨f, v, Field.named?_eq_some_iff.mp hf, hv, rfl⟩
      · cases h
  · rintro ⟨f, v, rfl, hv, rfl⟩
    rw [putEntry, Field.named?_name]
    simp only [hv]

/-- The value that some entries give to a field. -/
def entryValue? (entries : List (String × Toml.Value)) (f : Field) : Option FieldValue :=
  (Table.lookup f.name entries).bind (FieldValue.ofEntry? f.kind)

theorem entryValue?_cons {f : Field} {w : Toml.Value} {rest : List (String × Toml.Value)}
    (g : Field) :
    entryValue? ((f.name, w) :: rest) g =
      if g = f then FieldValue.ofEntry? f.kind w else entryValue? rest g := by
  rw [entryValue?, Table.lookup]
  by_cases hg : g = f
  · subst hg
    simp
  · have hname : f.name ≠ g.name := fun h => hg (Field.name_injective h.symm)
    rw [if_neg hname, if_neg hg]
    rfl

/-- Entries with ascending names give their values to the fields that they name, and the other
fields stay as they are. -/
theorem ofEntries_eq_ok_iff {entries : List (String × Toml.Value)}
    (hs : entries.Pairwise fun a b => a.1 < b.1) {e e' : Envelope} :
    e.ofEntries entries = .ok e' ↔ (∀ name w, (name, w) ∈ entries → Readable name w) ∧
      ∀ f, e'.get? f = (entryValue? entries f).or (e.get? f) := by
  induction entries generalizing e with
  | nil =>
      have hnone : ∀ f, entryValue? [] f = none := fun f => rfl
      simp [ofEntries, hnone, Envelope.ext_iff, funext_iff, eq_comm]
  | cons entry rest ih =>
      obtain ⟨name, w⟩ := entry
      obtain ⟨hname, hrest⟩ := List.pairwise_cons.mp hs
      -- No later entry names the same field.
      have hlast : ∀ f : Field, f.name = name → entryValue? rest f = none := by
        rintro f rfl
        have hlookup : Table.lookup f.name rest = none := by
          rw [Option.eq_none_iff_forall_ne_some]
          intro w' hw'
          have hlt : f.name < f.name := hname (f.name, w') (Table.mem_of_lookup hw')
          exact String.lt_irrefl _ hlt
        rw [entryValue?, hlookup, Option.bind_none]
      have hvalue : ∀ (f : Field) (v : FieldValue), f.name = name →
          FieldValue.ofEntry? f.kind w = some v → ∀ g,
          (entryValue? ((name, w) :: rest) g).or (e.get? g) =
            (entryValue? rest g).or ((e.put f v).get? g) := by
        rintro f v rfl hv g
        rw [entryValue?_cons, get?_put]
        split
        · rename_i hg
          rw [hg, hlast f rfl, hv]
          rfl
        · rfl
      simp only [ofEntries, Result.bind_eq_ok_iff, putEntry_eq_ok_iff, ih hrest]
      constructor
      · rintro ⟨_, ⟨f, v, hf, hv, rfl⟩, hreadable, hget⟩
        refine ⟨?_, ?_⟩
        · intro name' w' hmem
          rcases List.mem_cons.mp hmem with heq | hmem
          · cases heq
            exact ⟨f, v, hf, hv⟩
          · exact hreadable name' w' hmem
        · intro g
          rw [hvalue f v hf hv, hget]
      · rintro ⟨hreadable, hget⟩
        obtain ⟨f, v, hf, hv⟩ := hreadable name w List.mem_cons_self
        refine ⟨_, ⟨f, v, hf, hv, rfl⟩, ?_, ?_⟩
        · intro name' w' hmem
          exact hreadable name' w' (List.mem_cons_of_mem _ hmem)
        · intro g
          rw [hget, hvalue f v hf hv]

theorem ofTable_eq_ok_iff {t : Table Toml.Value} {e : Envelope} :
    ofTable t = .ok e ↔ (∀ name w, (name, w) ∈ t.entries → Readable name w) ∧
      ∀ f, e.get? f = (t.find? f.name).bind (FieldValue.ofEntry? f.kind) := by
  rw [ofTable, ofEntries_eq_ok_iff t.sorted]
  simp only [get?_empty, Option.or_none]
  rfl

/-! ## Texts of the values -/

/-- Whether the value of each field is of the kind of the field. -/
def WellKinded (e : Envelope) : Prop := ∀ f v, e.get? f = some v → FieldValue.HasKind f.kind v

/-- The text of each field that has a value, under the name of the field. -/
def texts (e : Envelope) : Table Toml.Value :=
  .ofList (Field.all.filterMap fun f => (e.text? f).map fun text => (f.name, .text text))

theorem mem_texts {e : Envelope} {name : String} {w : Toml.Value}
    (h : (name, w) ∈ e.texts.entries) :
    ∃ (f : Field) (text : String), f.name = name ∧ e.text? f = some text ∧ w = .text text := by
  obtain ⟨f, _, hf⟩ := List.mem_filterMap.mp (Table.mem_of_mem_ofList h)
  obtain ⟨text, htext, heq⟩ := Option.map_eq_some_iff.mp hf
  cases heq
  exact ⟨f, text, rfl, htext, rfl⟩

theorem find?_texts (e : Envelope) (f : Field) : e.texts.find? f.name = (e.text? f).map .text := by
  cases htext : e.text? f with
  | none =>
      rw [Option.map_none, Option.eq_none_iff_forall_ne_some]
      intro w hw
      obtain ⟨g, text, hname, hg, _⟩ := mem_texts (Table.find?_eq_some_iff.mp hw)
      cases Field.name_injective hname
      cases htext.symm.trans hg
  | some text =>
      have hnames : Field.all.Pairwise fun f g => f.name ≠ g.name := by decide
      refine Table.find?_ofList_of_mem ?_ ?_
      · refine List.pairwise_filterMap.mpr (hnames.imp ?_)
        intro f g hne a ha b hb
        obtain ⟨_, _, rfl⟩ := Option.map_eq_some_iff.mp ha
        obtain ⟨_, _, rfl⟩ := Option.map_eq_some_iff.mp hb
        exact hne
      · exact List.mem_filterMap.mpr ⟨f, Field.mem_all f, by rw [htext]; rfl⟩

theorem wellKinded_of_ofTable {t : Table Toml.Value} {e : Envelope} (h : ofTable t = .ok e) :
    e.WellKinded := by
  intro f v hv
  rw [(ofTable_eq_ok_iff.mp h).2 f] at hv
  obtain ⟨w, _, hw⟩ := Option.bind_eq_some_iff.mp hv
  exact FieldValue.hasKind_of_ofEntry? hw

theorem ofTable_texts {e : Envelope} (h : e.WellKinded) : ofTable e.texts = .ok e := by
  rw [ofTable_eq_ok_iff]
  constructor
  · intro name w hmem
    obtain ⟨f, text, hname, htext, rfl⟩ := mem_texts hmem
    obtain ⟨v, hv, rfl⟩ := Option.map_eq_some_iff.mp htext
    exact ⟨f, v, hname, FieldValue.ofEntry?_render (h f v hv)⟩
  · intro f
    rw [find?_texts, text?]
    cases hv : e.get? f with
    | none => rfl
    | some v => exact (FieldValue.ofEntry?_render (h f v hv)).symm

/-- Envelopes with values of the right kinds are those that are read back from their texts, and
those that are read from any table at all. -/
theorem wellKinded_tfae (e : Envelope) :
    List.TFAE [e.WellKinded, ofTable e.texts = .ok e, ∃ t, ofTable t = .ok e] := by
  tfae_have 1 → 2 := ofTable_texts
  tfae_have 2 → 3 := fun h => ⟨e.texts, h⟩
  tfae_have 3 → 1 := fun ⟨_, h⟩ => wellKinded_of_ofTable h
  tfae_finish

end Envelope
end EnvelopeRules
