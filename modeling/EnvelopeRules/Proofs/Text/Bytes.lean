import EnvelopeRules.Table
import Mathlib.Algebra.Group.Nat.Defs
import Mathlib.Tactic.SplitIfs

/-!
# The order of texts and the order of their bytes

Texts are compared by their characters.  In UTF-8 the first byte of a character tells how many bytes
follow it, so that the comparison of the bytes comes to the same.
-/

namespace EnvelopeRules
namespace Bytes

/-- The bytes of a text. -/
def of (text : String) : List UInt8 := text.toByteArray.data.toList

theorem of_ofList (cs : List Char) : of (.ofList cs) = cs.flatMap String.utf8EncodeChar := by
  rw [of, ← String.utf8Encode_toList, List.utf8Encode, List.toList_data_toByteArray,
    String.toList_ofList]

/-! ## One character -/

/-- How many bytes follow the first one. -/
def following (code : Nat) : Nat :=
  if code ≤ 0x7f then 0 else if code ≤ 0x7ff then 1 else if code ≤ 0xffff then 2 else 3

def first (code : Nat) : Nat :=
  if code ≤ 0x7f then code
  else if code ≤ 0x7ff then code / 64 % 32 + 192
  else if code ≤ 0xffff then code / 4096 % 16 + 224
  else code / 262144 % 8 + 240

/-- The last bytes, each with six bits. -/
def trail (code : Nat) : Nat → List UInt8
  | 0 => []
  | k + 1 => UInt8.ofNat (code / 64 ^ k % 64 + 128) :: trail code k

theorem encode_eq (c : Char) :
    String.utf8EncodeChar c =
      UInt8.ofNat (first c.val.toNat) :: trail c.val.toNat (following c.val.toNat) := by
  simp only [String.utf8EncodeChar, first, following]
  split_ifs <;> simp [trail]

theorem cons_lt {a b : Nat} {s t : List UInt8} (hb : b < 256) (h : a < b ∨ a = b ∧ s < t) :
    UInt8.ofNat a :: s < UInt8.ofNat b :: t := by
  rcases h with hlt | ⟨rfl, hst⟩
  · refine List.Lex.rel ?_
    rw [UInt8.lt_iff_toNat_lt, UInt8.toNat_ofNat', UInt8.toNat_ofNat']
    omega
  · exact List.Lex.cons hst

theorem trail_append_lt {m n k : Nat} (h : m % 64 ^ k < n % 64 ^ k) (s t : List UInt8) :
    trail m k ++ s < trail n k ++ t := by
  induction k with
  | zero => simp [Nat.mod_one] at h
  | succ k ih =>
      rw [Nat.pow_succ, Nat.mod_mul, Nat.mod_mul] at h
      have hpos : 0 < 64 ^ k := Nat.pow_pos (by decide)
      have hm : m % 64 ^ k < 64 ^ k := Nat.mod_lt _ hpos
      have hn : n % 64 ^ k < 64 ^ k := Nat.mod_lt _ hpos
      refine cons_lt (by omega) ?_
      rcases Nat.lt_trichotomy (m / 64 ^ k % 64) (n / 64 ^ k % 64) with hlt | heq | hgt
      · exact .inl (by omega)
      · rw [heq] at h
        exact .inr ⟨by rw [heq], ih (by omega)⟩
      · have hmul := Nat.mul_le_mul_left (64 ^ k) (Nat.succ_le_of_lt hgt)
        rw [Nat.mul_succ] at hmul
        omega

/-- The first byte of a smaller character is smaller, or as many bytes follow. -/
theorem first_lt_or_eq {m n : Nat} (h : m < n) (hn : n < 0x110000) :
    first m < first n ∨
      first m = first n ∧ following m = following n ∧
        m % 64 ^ following n < n % 64 ^ following n := by
  simp only [first, following]
  split_ifs <;> omega

theorem first_lt {n : Nat} (hn : n < 0x110000) : first n < 256 := by
  simp only [first]
  split_ifs <;> omega

theorem code_lt (c : Char) : c.val.toNat < 0x110000 := by
  rcases c.valid with h | ⟨_, h⟩
  · exact Nat.lt_trans h (by decide)
  · exact h

/-- The bytes of a smaller character are smaller, whatever follows them. -/
theorem encode_append_lt {c d : Char} (h : c < d) (s t : List UInt8) :
    String.utf8EncodeChar c ++ s < String.utf8EncodeChar d ++ t := by
  have hcode : c.val.toNat < d.val.toNat := h
  have hd := code_lt d
  rw [encode_eq, encode_eq, List.cons_append, List.cons_append]
  refine cons_lt (first_lt hd) ?_
  rcases first_lt_or_eq hcode hd with hlt | ⟨hfirst, hfollowing, hmod⟩
  · exact .inl hlt
  · rw [hfollowing]
    exact .inr ⟨hfirst, trail_append_lt hmod s t⟩

/-! ## Texts -/

theorem flatMap_encode_lt {cs ds : List Char} (h : cs < ds) :
    cs.flatMap String.utf8EncodeChar < ds.flatMap String.utf8EncodeChar := by
  induction h with
  | @nil d ds =>
      rw [List.flatMap_cons, encode_eq]
      exact List.Lex.nil
  | cons _ ih =>
      rw [List.flatMap_cons, List.flatMap_cons]
      exact List.append_left_lt ih
  | rel hlt =>
      rw [List.flatMap_cons, List.flatMap_cons]
      exact encode_append_lt hlt _ _

theorem of_lt_of_lt {a b : String} (h : a < b) : of a < of b := by
  have hbytes := flatMap_encode_lt (String.lt_iff.mp h)
  rwa [← of_ofList, ← of_ofList, String.ofList_toList, String.ofList_toList] at hbytes

theorem of_lt_iff {a b : String} : of a < of b ↔ a < b := by
  refine ⟨fun h => Decidable.byContradiction fun hnot => ?_, of_lt_of_lt⟩
  by_cases he : b = a
  · exact List.lt_irrefl _ (he ▸ h)
  · exact List.lt_asymm h (of_lt_of_lt (Table.lt_of_not_lt_of_ne hnot he))

end Bytes
end EnvelopeRules
