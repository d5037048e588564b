import EnvelopeRules.Proofs.Envelope.Reading
import EnvelopeRules.Proofs.Text.Bytes

/-!
# Which tables are envelopes

A table is accepted as an envelope if each of its entries names a field and denotes a value of the
field's kind, and the envelope then sets these fields and no others.  Any other table is refused as
a whole, for the first of its entries, in the order of the bytes of the names, that does not fit.
-/

namespace EnvelopeRules

/-! ## Values -/

namespace FieldValue

/-- The value that stands in an entry for a field of some kind.  Numbers may be written as texts. -/
inductive Denotes : FieldKind → Toml.Value → FieldValue → Prop
  | domain (s : String) : Denotes .domain (.text s) (.text s)
  | mailbox (s : String) : Denotes .mailbox (.text s) (.text s)
  | address {s : String} {a : Address} : Address.parse? s = some a →
      Denotes .address (.text s) (.address a)
  | integer (n : Int64) : Denotes .integer (.integer n) (.integer n)
  | integerText {s : String} {n : Int64} : Decimal.Signed s.toList n.toInt →
      Denotes .integer (.text s) (.integer n)
  | id {n : Int64} {m : UInt64} : n.toInt = m.toNat → Denotes .id (.integer n) (.id m)
  | idText {s : String} {m : UInt64} : Decimal.Unsigned s.toList m.toNat →
      Denotes .id (.text s) (.id m)

/-- An integer is the number without sign that it is converted to exactly if it is not negative. -/
theorem toInt_eq_iff {n : Int64} {m : UInt64} : n.toInt = m.toNat ↔ 0 ≤ n ∧ n.toUInt64 = m := by
  have hbits : n.toInt = if 2 * n.toUInt64.toNat < 2 ^ 64 then (n.toUInt64.toNat : Int)
      else n.toUInt64.toNat - (2 ^ 64 : Nat) :=
    BitVec.toInt_eq_toNat_cond n.toBitVec
  have hsize : n.toUInt64.toNat < 2 ^ 64 := n.toUInt64.toNat_lt
  rw [Int64.le_iff_toInt_le, Int64.toInt_zero, ← UInt64.toNat_inj, hbits]
  split <;> omega

theorem ofEntry?_eq_some_iff {k : FieldKind} {w : Toml.Value} {v : FieldValue} :
    ofEntry? k w = some v ↔ Denotes k w v := by
  constructor
  · intro h
    unfold ofEntry? at h
    split at h
    · cases h
      exact .domain _
    · cases h
      exact .mailbox _
    · obtain ⟨a, ha, rfl⟩ := Option.map_eq_some_iff.mp h
      exact .address ha
    · cases h
      exact .integer _
    · obtain ⟨n, hn, rfl⟩ := Option.map_eq_some_iff.mp h
      exact .integerText (Decimal.int64?_eq_some_iff.mp hn)
    · split at h
      · rename_i hn
        cases h
        exact .id (toInt_eq_iff.mpr ⟨hn, rfl⟩)
      · cases h
    · obtain ⟨n, hn, rfl⟩ := Option.map_eq_some_iff.mp h
      exact .idText (Decimal.uint64?_eq_some_iff.mp hn)
    · cases h
  · intro h
    cases h with
    | domain s => rfl
    | mailbox s => rfl
    | address ha => simp only [ha, ofEntry?, Option.map_some]
    | integer n => rfl
    | integerText hn => simp only [Decimal.int64?_eq_some_iff.mpr hn, ofEntry?, Option.map_some]
    | id hn =>
        obtain ⟨hpos, rfl⟩ := toInt_eq_iff.mp hn
        simp only [hpos, ofEntry?, if_true]
    | idText hn => simp only [Decimal.uint64?_eq_some_iff.mpr hn, ofEntry?, Option.map_some]

end FieldValue

namespace Envelope

/-! ## Entries -/

def Fits (name : String) (w : Toml.Value) : Prop :=
  ∃ (f : Field) (v : FieldValue), f.name = name ∧ FieldValue.Denotes f.kind w v

/-- What is wrong with an entry that does not fit. -/
inductive Offends : String → Toml.Value → EnvelopeError → Prop
  | unknown {name : String} {w : Toml.Value} : (∀ f : Field, f.name ≠ name) →
      Offends name w (.unknownField name)
  | unfit {f : Field} {w : Toml.Value} : (∀ v, ¬ FieldValue.Denotes f.kind w v) →
      Offends f.name w (.invalidValue f w)

theorem readable_iff {name : String} {w : Toml.Value} : Readable name w ↔ Fits name w := by
  simp only [Readable, Fits, FieldValue.ofEntry?_eq_some_iff]

theorem Offends.not_fits {name : String} {w : Toml.Value} {err : EnvelopeError}
    (h : Offends name w err) : ¬ Fits name w := by
  rintro ⟨f, v, hname, hv⟩
  cases h with
  | unknown hnone => exact hnone f hname
  | unfit hnone =>
      cases Field.name_injective hname
      exact hnone v hv

theorem putEntry_eq_error_iff {e : Envelope} {name : String} {w : Toml.Value}
    {err : EnvelopeError} :
    e.putEntry name w = .error err ↔ Offends name w err := by
  constructor
  · intro h
    rw [putEntry] at h
    split at h
    · rename_i hnone
      cases h
      refine .unknown fun f hname => ?_
      rw [← hname, Field.named?_name] at hnone
      cases hnone
    · rename_i f hf
      obtain rfl := Field.named?_eq_some_iff.mp hf
      split at h
      · cases h
      · rename_i hnone
        cases h
        refine .unfit fun v hv => ?_
        rw [FieldValue.ofEntry?_eq_some_iff.mpr hv] at hnone
        cases hnone
  · intro h
    cases h with
    | unknown hnone =>
        have hnamed : Field.named? name = none := by
          rw [Option.eq_none_iff_forall_ne_some]
          intro f hf
          exact hnone f (Field.named?_eq_some_iff.mp hf)
        rw [putEntry, hnamed]
    | @unfit f _ hnone =>
        have hentry : FieldValue.ofEntry? f.kind w = none := by
          rw [Option.eq_none_iff_forall_ne_some]
          intro v hv
          exact hnone v (FieldValue.ofEntry?_eq_some_iff.mp hv)
        rw [putEntry, Field.named?_name]
        simp only [hentry]

/-- Entries are refused for the first one that does not fit. -/
theorem ofEntries_eq_error_iff {entries : List (String × Toml.Value)} {e : Envelope}
    {err : EnvelopeError} :
    e.ofEntries entries = .error err ↔ ∃ before name w after,
      entries = before ++ (name, w) :: after ∧ (∀ a ∈ before, Fits a.1 a.2) ∧
        Offends name w err := by
  induction entries generalizing e with
  | nil => simp [ofEntries]
  | cons entry rest ih =>
      obtain ⟨name, w⟩ := entry
      rw [ofEntries]
      cases hput : e.putEntry name w with
      | error err' =>
          have hoffends := putEntry_eq_error_iff.mp hput
          rw [Result.error_bind]
          constructor
          · intro h
            cases h
            exact ⟨[], name, w, rest, rfl, by simp, hoffends⟩
          · rintro ⟨before, name', w', after, hsplit, hbefore, hoffends'⟩
            cases before with
            | nil =>
                cases hsplit
                exact hput.symm.trans (putEntry_eq_error_iff.mpr hoffends')
            | cons a before =>
                cases hsplit
                exact absurd (hbefore _ List.mem_cons_self) hoffends.not_fits
      | ok e' =>
          obtain ⟨f, v, hname, hv, _⟩ := putEntry_eq_ok_iff.mp hput
          have hfits : Fits name w := readable_iff.mp ⟨f, v, hname, hv⟩
          rw [Result.ok_bind, ih]
          constructor
          · rintro ⟨before, name', w', after, rfl, hbefore, hoffends⟩
            exact ⟨(name, w) :: before, name', w', after, rfl,
              List.forall_mem_cons.mpr ⟨hfits, hbefore⟩, hoffends⟩
          · rintro ⟨before, name', w', after, hsplit, hbefore, hoffends⟩
            cases before with
            | nil =>
                cases hsplit
                exact absurd hfits hoffends.not_fits
            | cons a before =>
                cases hsplit
                exact ⟨before, name', w', after, rfl, (List.forall_mem_cons.mp hbefore).2, hoffends⟩

/-! ## Tables -/

theorem ofTable_eq_error_iff {t : Table Toml.Value} {err : EnvelopeError} :
    ofTable t = .error err ↔ ∃ name w, (name, w) ∈ t.entries ∧ Offends name w err ∧
      ∀ name' w', (name', w') ∈ t.entries → Bytes.of name' < Bytes.of name → Fits name' w' := by
  have hsorted := t.sorted
  rw [ofTable, ofEntries_eq_error_iff]
  constructor
  · rintro ⟨before, name, w, after, hsplit, hbefore, hoffends⟩
    refine ⟨name, w, by simp [hsplit], hoffends, ?_⟩
    intro name' w' hmem hlt
    rw [Bytes.of_lt_iff] at hlt
    rw [hsplit] at hmem hsorted
    obtain ⟨_, hrest, _⟩ := List.pairwise_append.mp hsorted
    have hafter := (List.pairwise_cons.mp hrest).1
    -- From the entry on, no name is smaller.
    rcases List.mem_append.mp hmem with hmem | hmem
    · exact hbefore _ hmem
    · rcases List.mem_cons.mp hmem with heq | hmem
      · cases heq
        exact absurd hlt (String.lt_irrefl name)
      · exact absurd (String.lt_trans hlt (hafter _ hmem)) (String.lt_irrefl name')
  · rintro ⟨name, w, hmem, hoffends, hsmaller⟩
    obtain ⟨before, after, hsplit⟩ := List.append_of_mem hmem
    refine ⟨before, name, w, after, hsplit, ?_, hoffends⟩
    intro a ha
    rw [hsplit] at hsorted
    have hlt : a.1 < name := (List.pairwise_append.mp hsorted).2.2 a ha _ List.mem_cons_self
    exact hsmaller a.1 a.2 (by simp [hsplit, ha]) (Bytes.of_lt_of_lt hlt)

theorem exists_ofTable_iff {t : Table Toml.Value} :
    (∃ e, ofTable t = .ok e) ↔ ∀ name w, (name, w) ∈ t.entries → Fits name w := by
  constructor
  · rintro ⟨e, he⟩ name w hmem
    exact readable_iff.mp ((ofTable_eq_ok_iff.mp he).1 name w hmem)
  · intro hfits
    cases ht : ofTable t with
    | ok e => exact ⟨e, rfl⟩
    | error err =>
        obtain ⟨name, w, hmem, hoffends, _⟩ := ofTable_eq_error_iff.mp ht
        exact absurd (hfits name w hmem) hoffends.not_fits

theorem get?_of_ofTable {t : Table Toml.Value} {e : Envelope} (h : ofTable t = .ok e) {f : Field}
    {v : FieldValue} :
    e.get? f = some v ↔ ∃ w, (f.name, w) ∈ t.entries ∧ FieldValue.Denotes f.kind w v := by
  rw [(ofTable_eq_ok_iff.mp h).2 f, Option.bind_eq_some_iff]
  simp only [Table.find?_eq_some_iff, FieldValue.ofEntry?_eq_some_iff]

/-- Exactly the fields that the table names have a value. -/
theorem isSome_of_ofTable {t : Table Toml.Value} {e : Envelope} (h : ofTable t = .ok e)
    (f : Field) :
    (e.get? f).isSome ↔ f.name ∈ t.names := by
  rw [Option.isSome_iff_exists, Table.names, List.mem_map]
  constructor
  · rintro ⟨v, hv⟩
    obtain ⟨w, hmem, _⟩ := (get?_of_ofTable h).mp hv
    exact ⟨_, hmem, rfl⟩
  · rintro ⟨⟨name, w⟩, hmem, rfl⟩
    obtain ⟨g, v, hname, hv⟩ := exists_ofTable_iff.mp ⟨e, h⟩ _ w hmem
    cases Field.name_injective hname
    exact ⟨v, (get?_of_ofTable h).mpr ⟨w, hmem, hv⟩⟩

theorem Offends.texts {name : String} {w : Toml.Value} {err : EnvelopeError}
    (h : Offends name w err) :
    err.code = "UNKNOWN_FIELD" ∧ err.message = "Unknown envelope field: " ++ name ∨
      err.code = "VALIDATION_ERROR" ∧ err.message =
        "Validation error: Invalid value for envelope field '" ++ name ++ "': " ++ w.shown := by
  cases h with
  | unknown _ => exact .inl ⟨rfl, rfl⟩
  | unfit _ => exact .inr ⟨rfl, rfl⟩

/-- When a table is accepted, what its envelope then sets, and for which entry and how it is refused
otherwise. -/
theorem ofTable_exact (t : Table Toml.Value) :
    ((∃ e, ofTable t = .ok e) ↔ ∀ name w, (name, w) ∈ t.entries → Fits name w) ∧
    (∀ e, ofTable t = .ok e →
      (∀ f, (e.get? f).isSome ↔ f.name ∈ t.names) ∧
      (∀ f v, e.get? f = some v ↔ ∃ w, (f.name, w) ∈ t.entries ∧ FieldValue.Denotes f.kind w v) ∧
      e.WellKinded) ∧
    (∀ err, ofTable t = .error err ↔ ∃ name w, (name, w) ∈ t.entries ∧ Offends name w err ∧
      ∀ name' w', (name', w') ∈ t.entries → Bytes.of name' < Bytes.of name → Fits name' w') ∧
    ∀ err, ofTable t = .error err → ∃ name w, (name, w) ∈ t.entries ∧ Offends name w err ∧
      (err.code = "UNKNOWN_FIELD" ∧ err.message = "Unknown envelope field: " ++ name ∨
        err.code = "VALIDATION_ERROR" ∧ err.message =
          "Validation error: Invalid value for envelope field '" ++ name ++ "': " ++ w.shown) := by
  refine ⟨exists_ofTable_iff, ?_, fun err => ofTable_eq_error_iff, ?_⟩
  · intro e he
    exact ⟨isSome_of_ofTable he, fun f v => get?_of_ofTable he, wellKinded_of_ofTable he⟩
  · intro err herr
    obtain ⟨name, w, hmem, hoffends, _⟩ := ofTable_eq_error_iff.mp herr
    exact ⟨name, w, hmem, hoffends, hoffends.texts⟩

end Envelope
end EnvelopeRules
