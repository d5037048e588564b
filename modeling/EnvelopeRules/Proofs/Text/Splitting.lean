import Mathlib.Data.String.Basic

/-!
# Splitting a text

A text is split at a character as the list of its characters is.
-/

namespace EnvelopeRules

open String

/-- What is left of a text is split, after the characters of the current part and those before
it. -/
theorem splitOnAux_singleton (sep : Char) (before part rest : List Char) (acc : List String) :
    splitOnAux (ofList (before ++ part ++ rest)) (String.singleton sep) ⟨utf8Len before⟩
        ⟨utf8Len (before ++ part)⟩ 0 acc =
      acc.reverse ++ (List.splitOnPPrepend (· == sep) rest part.reverse).map ofList := by
  induction rest generalizing before part acc with
  | nil =>
      have hpart : Pos.Raw.extract (ofList (before ++ part ++ [])) ⟨utf8Len before⟩
          ⟨utf8Len (before ++ part)⟩ = ofList part := by
        rw [utf8Len_append, extract_of_valid]
      rw [splitOnAux.eq_def, if_pos ((atEnd_of_valid _ _).mpr rfl), hpart]
      simp
  | cons c rest ih =>
      have hend : ¬ Pos.Raw.atEnd (ofList (before ++ part ++ c :: rest))
          ⟨utf8Len (before ++ part)⟩ := fun h => by cases (atEnd_of_valid _ _).mp h
      have hsep : Pos.Raw.get (String.singleton sep) 0 = sep := get_of_valid [] [sep]
      have hnext : utf8Len (before ++ part) + c.utf8Size = utf8Len (before ++ part ++ [c]) := by
        rw [utf8Len_append _ [c], utf8Len_cons, utf8Len_nil, Nat.zero_add]
      rw [splitOnAux.eq_def, if_neg hend, get_of_valid, next_of_valid, hsep, List.headD_cons, hnext,
        List.splitOnPPrepend_cons_eq_if]
      by_cases hc : c = sep
      · subst hc
        -- The separator has been read, and the part before it is complete.
        have hsepNext : Pos.Raw.next (String.singleton c) 0 = ⟨c.utf8Size⟩ := by
          simpa using next_of_valid [] c []
        have hsepEnd : Pos.Raw.atEnd (String.singleton c) ⟨c.utf8Size⟩ := by
          simpa using (atEnd_of_valid [c] []).mpr rfl
        have hcut : (⟨utf8Len (before ++ part ++ [c])⟩ : Pos.Raw).unoffsetBy ⟨c.utf8Size⟩ =
            ⟨utf8Len before + utf8Len part⟩ := by
          rw [Pos.Raw.unoffsetBy, ← hnext, Nat.add_sub_cancel, utf8Len_append]
        have hrest := ih (before ++ part ++ [c]) [] (ofList part :: acc)
        rw [List.append_nil, ← List.append_cons] at hrest
        simp only [beq_self_eq_true, if_true, hsepNext, hsepEnd, hcut, extract_of_valid, hrest]
        rw [List.reverse_cons, List.append_assoc, List.reverse_reverse, List.map_cons]
        rfl
      · have hrest := ih before (part ++ [c]) acc
        have hstay : (⟨utf8Len (before ++ part)⟩ : Pos.Raw).unoffsetBy 0 =
            ⟨utf8Len (before ++ part)⟩ := rfl
        rw [← List.append_assoc, ← List.append_cons] at hrest
        simp only [beq_iff_eq, hc, if_false, hstay, next_of_valid, hnext, hrest]
        simp

/-- A text is split at a character as its characters are. -/
theorem splitOn_singleton (s : String) (sep : Char) :
    s.splitOn (String.singleton sep) = (s.toList.splitOn sep).map ofList := by
  have hsep : (String.singleton sep == "") = false := by simp
  have haux := splitOnAux_singleton sep [] [] s.toList []
  rw [List.append_nil, List.nil_append, ofList_toList] at haux
  rw [String.splitOn, hsep]
  exact haux

theorem splitOn_of_notMem {s : String} {sep : Char} (h : sep ∉ s.toList) :
    s.splitOn (String.singleton sep) = [s] := by
  rw [splitOn_singleton, List.splitOn_eq_singleton h, List.map_singleton, ofList_toList]

end EnvelopeRules
