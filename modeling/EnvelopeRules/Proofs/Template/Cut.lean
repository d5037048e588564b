import EnvelopeRules.Template.Segment
import Mathlib.Data.List.Infix

/-!
# Cuts of a template

A cut writes a text as segments, each of which may stand before what follows it.  Reading finds
the cut and stops only at the end of the text or at a reference or an escape that is not closed.
-/

namespace EnvelopeRules
namespace Template

/-- Two closing braces in a row, which end an escape. -/
def closing : List Char := ['}', '}']

/-- The characters that a segment is written with. -/
def Segment.written : Segment → List Char
  | .literal c => [c]
  | .reference name => '$' :: '{' :: (name ++ ['}'])
  | .escape text => '$' :: '{' :: '{' :: (text ++ closing)

/-- Whether a segment can be read back where `after` follows it. -/
def Segment.Proper (after : List Char) : Segment → Prop
  | .literal c => ¬ (c = '$' ∧ after.head? = some '{')
  | .reference name => '}' ∉ name ∧ name.head? ≠ some '{'
  | .escape text => ¬ closing <:+: text ∧ text.getLast? ≠ some '}'

/-- `Cut rest source segs` says that `source` is written by `segs` up to `rest`. -/
inductive Cut (rest : List Char) : List Char → List Segment → Prop
  | nil : Cut rest rest []
  | cons {s : Segment} {after : List Char} {segs : List Segment} :
      s.Proper after → Cut rest after segs → Cut rest (s.written ++ after) (s :: segs)

/-- What may follow a dollar sign with a brace if nothing closes it. -/
def Unclosed : List Char → Prop
  | '{' :: text => ¬ closing <:+: text
  | name => '}' ∉ name

theorem written_reference (name after : List Char) :
    (Segment.reference name).written ++ after = '$' :: '{' :: (name ++ '}' :: after) := by
  simp [Segment.written]

theorem written_escape (text after : List Char) :
    (Segment.escape text).written ++ after =
      '$' :: '{' :: '{' :: (text ++ (closing ++ after)) := by
  simp [Segment.written]

/-! ## Closing braces -/

theorem cutBrace_eq_some_iff {cs before after : List Char} :
    cutBrace cs = some (before, after) ↔ cs = before ++ '}' :: after ∧ '}' ∉ before := by
  induction cs generalizing before with
  | nil => simp [cutBrace]
  | cons c cs ih =>
      rw [cutBrace]
      by_cases hc : c = '}'
      · subst hc
        cases before with
        | nil => simp
        | cons b before => simp +contextual [eq_comm]
      · cases before with
        | nil => simp [hc]
        | cons b before =>
            simp only [if_neg hc, Option.map_eq_some_iff, Prod.exists, Prod.mk.injEq,
              List.cons.injEq, List.cons_append, List.mem_cons, not_or]
            constructor
            · rintro ⟨x, y, hxy, ⟨rfl, rfl⟩, rfl⟩
              exact ⟨⟨rfl, (ih.mp hxy).1⟩, Ne.symm hc, (ih.mp hxy).2⟩
            · rintro ⟨⟨rfl, hcs⟩, _, hb⟩
              exact ⟨before, after, ih.mpr ⟨hcs, hb⟩, ⟨rfl, rfl⟩, rfl⟩

theorem cutBrace_eq_none_iff {cs : List Char} : cutBrace cs = none ↔ '}' ∉ cs := by
  induction cs with
  | nil => simp [cutBrace]
  | cons c cs ih =>
      by_cases hc : c = '}'
      · simp [cutBrace, hc]
      · simp [cutBrace, hc, ih, Ne.symm hc]

theorem cutBraces_cons {c : Char} {cs : List Char}
    (h : ¬ (c = '}' ∧ cs.head? = some '}')) :
    cutBraces (c :: cs) = (cutBraces cs).map fun r => (c :: r.1, r.2) := by
  rw [cutBraces]
  rintro rest rfl rfl
  exact h ⟨rfl, rfl⟩

theorem closing_isInfix_cons_iff {c : Char} {cs : List Char} :
    closing <:+: c :: cs ↔ (c = '}' ∧ cs.head? = some '}') ∨ closing <:+: cs := by
  rw [List.infix_cons_iff]
  refine or_congr_left ?_
  cases cs with
  | nil => simp [closing]
  | cons d cs => simp [closing, eq_comm]

/-- A reference does not look like an escape. -/
theorem Segment.Proper.head_ne {name after : List Char}
    (h : (Segment.reference name).Proper after) :
    (name ++ '}' :: after).head? ≠ some '{' := by
  cases name with
  | nil => simp
  | cons d name => exact h.2

/-- A closing brace inside an escape is not followed by another one. -/
theorem Segment.Proper.not_closing {c : Char} {text after : List Char}
    (h : (Segment.escape (c :: text)).Proper after) :
    ¬ (c = '}' ∧ (text ++ (closing ++ after)).head? = some '}') := by
  obtain ⟨hpart, hlast⟩ := h
  rw [closing_isInfix_cons_iff, not_or] at hpart
  rintro ⟨rfl, hhead⟩
  cases text with
  | nil => exact hlast rfl
  | cons d text => exact hpart.1 ⟨rfl, hhead⟩

theorem Segment.Proper.escape_tail {c : Char} {text after : List Char}
    (h : (Segment.escape (c :: text)).Proper after) : (Segment.escape text).Proper after := by
  obtain ⟨hpart, hlast⟩ := h
  rw [closing_isInfix_cons_iff, not_or] at hpart
  refine ⟨hpart.2, fun hl => hlast ?_⟩
  rw [List.getLast?_cons, hl]
  rfl

theorem cutBraces_append {text : List Char} (after : List Char)
    (h : (Segment.escape text).Proper after) :
    cutBraces (text ++ (closing ++ after)) = some (text, after) := by
  induction text with
  | nil => rfl
  | cons c text ih =>
      rw [List.cons_append, cutBraces_cons h.not_closing, ih h.escape_tail]
      rfl

theorem cutBraces_eq_some {cs text after : List Char} (h : cutBraces cs = some (text, after)) :
    cs = text ++ (closing ++ after) ∧ (Segment.escape text).Proper after := by
  fun_induction cutBraces cs generalizing text with
  | case1 cs =>
      cases h
      exact ⟨rfl, by simp [closing], by simp⟩
  | case2 c cs hne ih =>
      obtain ⟨⟨x, y⟩, hxy, he⟩ := Option.map_eq_some_iff.mp h
      cases he
      obtain ⟨rfl, hpart, hlast⟩ := ih hxy
      refine ⟨rfl, ?_, ?_⟩
      · rw [closing_isInfix_cons_iff]
        rintro (⟨rfl, hhead⟩ | hinf)
        · cases x with
          | nil => simp at hhead
          | cons d x =>
              obtain rfl : d = '}' := by simpa using hhead
              exact hne _ rfl rfl
        · exact hpart hinf
      · cases x with
        | nil =>
            intro hl
            obtain rfl : c = '}' := by simpa using hl
            exact hne _ rfl rfl
        | cons d x => rwa [List.getLast?_cons_cons]
  | case3 => cases h

theorem cutBraces_eq_none_iff {cs : List Char} : cutBraces cs = none ↔ ¬ closing <:+: cs := by
  fun_induction cutBraces cs with
  | case1 cs => simpa using ⟨[], cs, rfl⟩
  | case2 c cs hne ih =>
      have hstart : ¬ (c = '}' ∧ cs.head? = some '}') := by
        rintro ⟨rfl, hhead⟩
        obtain ⟨rest, rfl⟩ := List.head?_eq_some_iff.mp hhead
        exact hne rest rfl rfl
      simp [ih, closing_isInfix_cons_iff, hstart]
  | case3 => simp [closing]

/-! ## Segments -/

theorem segments_literal {c : Char} {cs : List Char} (h : (Segment.literal c).Proper cs) :
    segments (c :: cs) = (.literal c :: (segments cs).1, (segments cs).2) := by
  rw [segments]
  · rintro rest rfl rfl
    exact h ⟨rfl, rfl⟩
  · rintro rest rfl rfl
    exact h ⟨rfl, rfl⟩

theorem segments_reference {cs name after : List Char} (hhead : cs.head? ≠ some '{')
    (h : cutBrace cs = some (name, after)) :
    segments ('$' :: '{' :: cs) = (.reference name :: (segments after).1, (segments after).2) := by
  rw [segments]
  · split
    · rename_i x y hxy
      cases h.symm.trans hxy
      rfl
    · rename_i hnone
      cases h.symm.trans hnone
  · rintro rest rfl
    exact hhead rfl

theorem segments_escape {cs text after : List Char} (h : cutBraces cs = some (text, after)) :
    segments ('$' :: '{' :: '{' :: cs) =
      (.escape text :: (segments after).1, (segments after).2) := by
  rw [segments]
  split
  · rename_i x y hxy
    cases h.symm.trans hxy
    rfl
  · rename_i hnone
    cases h.symm.trans hnone

/-- Reading what a segment is written with gives the segment. -/
theorem segments_written {s : Segment} {after : List Char} (h : s.Proper after) :
    segments (s.written ++ after) = (s :: (segments after).1, (segments after).2) := by
  cases s with
  | literal c => exact segments_literal h
  | reference name =>
      have hcut : cutBrace (name ++ '}' :: after) = some (name, after) :=
        cutBrace_eq_some_iff.mpr ⟨rfl, h.1⟩
      rw [written_reference, segments_reference h.head_ne hcut]
  | escape text => rw [written_escape, segments_escape (cutBraces_append after h)]

theorem segments_unclosed {rest : List Char} (h : Unclosed rest) :
    segments ('$' :: '{' :: rest) = ([], false) := by
  unfold Unclosed at h
  split at h
  · rw [segments]
    split
    · rename_i hsome
      rw [cutBraces_eq_none_iff.mpr h] at hsome
      cases hsome
    · rfl
  · rename_i hne
    rw [segments]
    · split
      · rename_i hsome
        rw [cutBrace_eq_none_iff.mpr h] at hsome
        cases hsome
      · rfl
    · exact hne

/-- Reading a text that is cut up to some rest goes on with the rest. -/
theorem segments_of_cut {rest source : List Char} {segs : List Segment}
    (h : Cut rest source segs) :
    segments source = (segs ++ (segments rest).1, (segments rest).2) := by
  induction h with
  | nil => rfl
  | cons hs _ ih => rw [segments_written hs, ih]; rfl

theorem exists_cut_written {s : Segment} {after : List Char} (hs : s.Proper after)
    (h : (∃ segs, Cut [] after segs) ∨
      ∃ segs rest, Cut ('$' :: '{' :: rest) after segs ∧ Unclosed rest) :
    (∃ segs, Cut [] (s.written ++ after) segs) ∨
      ∃ segs rest, Cut ('$' :: '{' :: rest) (s.written ++ after) segs ∧ Unclosed rest := by
  rcases h with ⟨segs, h⟩ | ⟨segs, rest, h, hr⟩
  · exact .inl ⟨_, .cons hs h⟩
  · exact .inr ⟨_, rest, .cons hs h, hr⟩

/-- Every text is cut to its end or up to what is not closed. -/
theorem exists_cut (source : List Char) :
    (∃ segs, Cut [] source segs) ∨
      ∃ segs rest, Cut ('$' :: '{' :: rest) source segs ∧ Unclosed rest := by
  -- The cases are those of reading: the end, an escape, a reference, a single character.
  induction source using segments.induct with
  | case1 => exact .inl ⟨[], .nil⟩
  | case2 cs text after hcut ih =>
      obtain ⟨rfl, hproper⟩ := cutBraces_eq_some hcut
      rw [← written_escape]
      exact exists_cut_written hproper ih
  | case3 cs hcut => exact .inr ⟨[], _, .nil, cutBraces_eq_none_iff.mp hcut⟩
  | case4 cs hne name after hcut ih =>
      obtain ⟨rfl, hname⟩ := cutBrace_eq_some_iff.mp hcut
      have hproper : (Segment.reference name).Proper after := by
        refine ⟨hname, fun hhead => ?_⟩
        obtain ⟨name, rfl⟩ := List.head?_eq_some_iff.mp hhead
        exact hne _ rfl
      rw [← written_reference]
      exact exists_cut_written hproper ih
  | case5 cs hne hcut =>
      refine .inr ⟨[], _, .nil, ?_⟩
      rw [Unclosed]
      · exact cutBrace_eq_none_iff.mp hcut
      · exact hne
  | case6 c cs hne₁ hne₂ ih =>
      have hproper : (Segment.literal c).Proper cs := by
        rintro ⟨rfl, hhead⟩
        obtain ⟨rest, rfl⟩ := List.head?_eq_some_iff.mp hhead
        exact hne₂ rest rfl rfl
      exact exists_cut_written hproper ih

/-- A text has at most one cut up to its end. -/
theorem eq_of_cut {source : List Char} {segs segs' : List Segment}
    (h : Cut [] source segs) (h' : Cut [] source segs') : segs = segs' := by
  have hs := (segments_of_cut h).symm.trans (segments_of_cut h')
  simpa [segments] using hs

theorem segments_eq_true_iff {source : List Char} {segs : List Segment} :
    segments source = (segs, true) ↔ Cut [] source segs := by
  constructor
  · intro h
    rcases exists_cut source with ⟨segs', hcut⟩ | ⟨segs', rest, hcut, hopen⟩
    · have hs := (segments_of_cut hcut).symm.trans h
      obtain rfl : segs' = segs := by simpa [segments] using hs
      exact hcut
    · have hs := (segments_of_cut hcut).symm.trans h
      simp [segments_unclosed hopen] at hs
  · intro h
    simp [segments_of_cut h, segments]

theorem segments_eq_false_iff {source : List Char} {segs : List Segment} :
    segments source = (segs, false) ↔
      ∃ rest, Cut ('$' :: '{' :: rest) source segs ∧ Unclosed rest := by
  constructor
  · intro h
    rcases exists_cut source with ⟨segs', hcut⟩ | ⟨segs', rest, hcut, hopen⟩
    · have hs := (segments_of_cut hcut).symm.trans h
      simp [segments] at hs
    · have hs := (segments_of_cut hcut).symm.trans h
      obtain rfl : segs' = segs := by simpa [segments_unclosed hopen] using hs
      exact ⟨rest, hcut, hopen⟩
  · rintro ⟨rest, hcut, hopen⟩
    simp [segments_of_cut hcut, segments_unclosed hopen]

theorem exists_cut_segments (source : List Char) : ∃ rest, Cut rest source (segments source).1 := by
  cases hend : (segments source).2 with
  | true => exact ⟨[], segments_eq_true_iff.mp (Prod.ext rfl hend)⟩
  | false =>
      obtain ⟨rest, hcut, _⟩ := segments_eq_false_iff.mp (Prod.ext rfl hend)
      exact ⟨_, hcut⟩

end Template
end EnvelopeRules
