import EnvelopeRules.Text.CharSet
import EnvelopeRules.Text.Decimal
import Mathlib.Data.List.Basic
import Mathlib.Tactic.IntervalCases

/-!
# Numerals

A number that is written with digits is read back.  In decimal this holds of every number with or
without sign that fits into 64 bits, in hexadecimal of every number.  A text is read as a decimal
number exactly if it is digits, behind a sign where one may stand, for a number in the range.
-/

namespace EnvelopeRules

namespace Decimal

theorem all_isDigit_toDigits (n : Nat) : (Nat.toDigits 10 n).all Char.isDigit := by
  rw [List.all_eq_true]
  intro c hc
  exact Nat.isDigit_of_mem_toDigits (by decide) (by decide) hc

theorem digits?_toDigits (n : Nat) : digits? (Nat.toDigits 10 n) = some n := by
  have hdigits := all_isDigit_toDigits n
  have hne : (Nat.toDigits 10 n).isEmpty = false := by simp
  simp [digits?, hdigits, hne]

theorem eq_zero_of_head?_toDigits {n : Nat} (h : (Nat.toDigits 10 n).head? = some '0') : n = 0 := by
  induction n using Nat.strong_induction_on with
  | _ n ih =>
      by_cases hn : n < 10
      · rw [Nat.toDigits_of_lt_base hn] at h
        exact Nat.digitChar_eq_zero.mp (Option.some.inj h)
      · rw [Nat.toDigits_of_base_le (by decide) (by omega),
          List.head?_append_of_ne_nil _ Nat.toDigits_ne_nil] at h
        have hsmaller := ih (n / 10) (by omega) h
        omega

/-! Digits without a sign are taken as they are, since no sign is a digit. -/

theorem natural?_of_digits {cs : List Char} {n : Nat} (h : digits? cs = some n) :
    natural? cs = some n := by
  unfold natural?
  split
  · simp [digits?, Char.isDigit] at h
  · exact h

theorem integer?_of_digits {cs : List Char} {n : Nat} (h : digits? cs = some n) :
    integer? cs = some (n : Int) := by
  unfold integer?
  split
  · simp [digits?, Char.isDigit] at h
  · simp [digits?, Char.isDigit] at h
  · simp [h]

theorem integer?_ofInt (n : Int) : integer? (ofInt n).toList = some n := by
  cases n with
  | ofNat n =>
      have hn := integer?_of_digits (digits?_toDigits n)
      simpa [ofInt, ofNat] using hn
  | negSucc n =>
      have hn := digits?_toDigits (n + 1)
      simp [ofInt, ofNat, integer?, hn, Int.negSucc_eq]

theorem int64?_ofInt64 (n : Int64) : int64? (ofInt64 n) = some n := by
  have hread : integer? (ofInt64 n).toList = some n.toInt := integer?_ofInt n.toInt
  have hlow : Int64.minValue.toInt ≤ n.toInt := n.le_toInt
  have hhigh : n.toInt ≤ Int64.maxValue.toInt := n.toInt_le
  rw [int64?, hread, Option.bind_some, fitInt64, if_pos ⟨hlow, hhigh⟩, Int64.ofInt_toInt]

theorem uint64?_ofUInt64 (n : UInt64) : uint64? (ofUInt64 n) = some n := by
  have hread : natural? (ofUInt64 n).toList = some n.toNat := by
    have hn := natural?_of_digits (digits?_toDigits n.toNat)
    simpa [ofUInt64, ofNat] using hn
  have hfits : n.toNat < UInt64.size := n.toNat_lt
  rw [uint64?, hread, Option.bind_some, fitUInt64, if_pos hfits, UInt64.ofNat_toNat]

/-! ## What is read -/

/-- Digits, at least one, that stand for a number. -/
structure Digits (cs : List Char) (n : Nat) : Prop where
  ne_nil : cs ≠ []
  digits : ∀ c ∈ cs, c.isDigit
  value : Nat.ofDigitChars 10 cs 0 = n

/-- The ways to write an integer: digits, alone or behind a sign. -/
inductive Signed : List Char → Int → Prop
  | plain {cs : List Char} {n : Nat} : Digits cs n → Signed cs n
  | plus {cs : List Char} {n : Nat} : Digits cs n → Signed ('+' :: cs) n
  | minus {cs : List Char} {n : Nat} : Digits cs n → Signed ('-' :: cs) (-n)

/-- The ways to write a number that has no sign: a plus may stand before it all the same. -/
inductive Unsigned : List Char → Nat → Prop
  | plain {cs : List Char} {n : Nat} : Digits cs n → Unsigned cs n
  | plus {cs : List Char} {n : Nat} : Digits cs n → Unsigned ('+' :: cs) n

theorem digits?_eq_some_iff {cs : List Char} {n : Nat} : digits? cs = some n ↔ Digits cs n := by
  rw [digits?]
  constructor
  · intro h
    split at h
    · rename_i hcs
      rw [Bool.and_eq_true, Bool.not_eq_true', List.isEmpty_eq_false_iff, List.all_eq_true] at hcs
      exact ⟨hcs.1, hcs.2, Option.some.inj h⟩
    · cases h
  · rintro ⟨hne, hdigits, rfl⟩
    have hall : cs.all Char.isDigit := List.all_eq_true.mpr hdigits
    have hempty : cs.isEmpty = false := List.isEmpty_eq_false_iff.mpr hne
    rw [hall, hempty]
    rfl

theorem integer?_eq_some_iff {cs : List Char} {z : Int} : integer? cs = some z ↔ Signed cs z := by
  constructor
  · intro h
    unfold integer? at h
    split at h
    · obtain ⟨m, hm, rfl⟩ := Option.map_eq_some_iff.mp h
      obtain ⟨n, hn, hcast⟩ := Option.bind_eq_some_iff.mp hm
      cases hcast
      exact .minus (digits?_eq_some_iff.mp hn)
    · obtain ⟨n, hn, rfl⟩ := Option.map_eq_some_iff.mp h
      exact .plus (digits?_eq_some_iff.mp hn)
    · obtain ⟨n, hn, rfl⟩ := Option.map_eq_some_iff.mp h
      exact .plain (digits?_eq_some_iff.mp hn)
  · intro h
    cases h with
    | plain h => exact integer?_of_digits (digits?_eq_some_iff.mpr h)
    | plus h => rw [integer?, digits?_eq_some_iff.mpr h]; rfl
    | minus h => rw [integer?, digits?_eq_some_iff.mpr h]; rfl

theorem natural?_eq_some_iff {cs : List Char} {n : Nat} : natural? cs = some n ↔ Unsigned cs n := by
  constructor
  · intro h
    unfold natural? at h
    split at h
    · exact .plus (digits?_eq_some_iff.mp h)
    · exact .plain (digits?_eq_some_iff.mp h)
  · intro h
    cases h with
    | plain h => exact natural?_of_digits (digits?_eq_some_iff.mpr h)
    | plus h => exact digits?_eq_some_iff.mpr h

theorem fitInt64_eq_some_iff {z : Int} {n : Int64} : fitInt64 z = some n ↔ z = n.toInt := by
  have hlow : Int64.minValue.toInt ≤ n.toInt := n.le_toInt
  have hhigh : n.toInt ≤ Int64.maxValue.toInt := n.toInt_le
  rw [fitInt64]
  constructor
  · intro h
    split at h
    · rename_i hz
      cases h
      exact (Int64.toInt_ofInt_of_le hz.1 (Int.lt_of_le_of_lt hz.2 (by decide))).symm
    · cases h
  · rintro rfl
    rw [if_pos ⟨hlow, hhigh⟩, Int64.ofInt_toInt]

theorem fitUInt64_eq_some_iff {k : Nat} {n : UInt64} : fitUInt64 k = some n ↔ k = n.toNat := by
  rw [fitUInt64]
  constructor
  · intro h
    split at h
    · rename_i hk
      cases h
      exact (UInt64.toNat_ofNat_of_lt hk).symm
    · cases h
  · rintro rfl
    rw [if_pos n.toNat_lt, UInt64.ofNat_toNat]

/-- What is read as a 64-bit integer is a written integer in the range. -/
theorem int64?_eq_some_iff {text : String} {n : Int64} :
    int64? text = some n ↔ Signed text.toList n.toInt := by
  rw [int64?, Option.bind_eq_some_iff]
  simp only [integer?_eq_some_iff, fitInt64_eq_some_iff, exists_eq_right]

theorem uint64?_eq_some_iff {text : String} {n : UInt64} :
    uint64? text = some n ↔ Unsigned text.toList n.toNat := by
  rw [uint64?, Option.bind_eq_some_iff]
  simp only [natural?_eq_some_iff, fitUInt64_eq_some_iff, exists_eq_right]

end Decimal

namespace CharSet

theorem hexDigit?_digitChar {d : Nat} (h : d < 16) : hexDigit? d.digitChar = some d := by
  interval_cases d <;> decide

theorem hexDigit?_of_mem_toDigits {n : Nat} {c : Char} (h : c ∈ Nat.toDigits 16 n) :
    (hexDigit? c).isSome := by
  induction n using Nat.strong_induction_on with
  | _ n ih =>
      by_cases hn : n < 16
      · rw [Nat.toDigits_of_lt_base hn, List.mem_singleton] at h
        rw [h, hexDigit?_digitChar hn]
        rfl
      · have hsmaller : n / 16 < n := by omega
        rw [Nat.toDigits_of_base_le (by decide) (by omega), List.mem_append,
          List.mem_singleton] at h
        rcases h with h | h
        · exact ih _ hsmaller h
        · rw [h, hexDigit?_digitChar (by omega)]
          rfl

theorem ofHex_concat (cs : List Char) (c : Char) :
    ofHex (cs ++ [c]) = 16 * ofHex cs + (hexDigit? c).getD 0 := by
  simp [ofHex]

theorem ofHex_toDigits (n : Nat) : ofHex (Nat.toDigits 16 n) = n := by
  induction n using Nat.strong_induction_on with
  | _ n ih =>
      by_cases hn : n < 16
      · rw [Nat.toDigits_of_lt_base hn]
        simp [ofHex, hexDigit?_digitChar hn]
      · have hsmaller : n / 16 < n := by omega
        have hlast : n % 16 < 16 := Nat.mod_lt _ (by decide)
        rw [Nat.toDigits_of_base_le (by decide) (by omega), ofHex_concat, ih _ hsmaller,
          hexDigit?_digitChar hlast, Option.getD_some]
        omega

end CharSet

end EnvelopeRules
