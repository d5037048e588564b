import EnvelopeRules.Proofs.Template.Grammar
import EnvelopeRules.Proofs.Text.Numerals

/-!
# Printing templates

Tokens are printed as a template: a capture by its number and a field by its name, and a literal
with an escape for everything in it that looks like a reference.  Some source is read as given
tokens just if their literals are longest possible and close what they open, and then the printed
text is such a source.
-/

namespace EnvelopeRules
namespace Template

/-- A literal with every dollar sign and brace, up to the next closing brace, as an escape. -/
def escaped : List Char → List Char
  | '$' :: '{' :: cs =>
    match _h : cutBrace cs with
    | some (text, rest) => '$' :: '{' :: '{' :: (text ++ (closing ++ escaped rest))
    | none => '$' :: '{' :: cs
  | c :: cs => c :: escaped cs
  | [] => []
termination_by cs => cs.length
decreasing_by
  · have := length_of_cutBrace _h
    simp only [List.length_cons]
    omega
  · simp

def Token.printed : Token → List Char
  | .literal text => escaped text.toList
  | .capture index => '$' :: '{' :: (Nat.toDigits 10 index ++ ['}'])
  | .field f => '$' :: '{' :: (f.name.toList ++ ['}'])

/-- The text that tokens are printed as. -/
def print (tokens : List Token) : String := String.ofList (tokens.flatMap Token.printed)

/-- Whether each dollar sign with a brace has a closing brace somewhere behind it. -/
def Closed (text : List Char) : Prop :=
  ∀ before after, text = before ++ '$' :: '{' :: after → '}' ∈ after

/-- The tokens that templates can be made of. -/
structure Expressible (tokens : List Token) : Prop where
  literal_ne_empty : .literal "" ∉ tokens
  literals_apart : ∀ a b, ¬ [.literal a, .literal b] <:+: tokens
  literal_closed : ∀ text, .literal text ∈ tokens → Closed text.toList
  capture_lt : ∀ index, .capture index ∈ tokens → index < UInt64.size

/-! ## Closed literals -/

theorem closed_nil : Closed [] := by
  intro before after h
  simp at h

theorem closed_cons_iff {c : Char} {cs : List Char} :
    Closed (c :: cs) ↔ (c = '$' → cs.head? = some '{' → '}' ∈ cs) ∧ Closed cs := by
  constructor
  · intro h
    refine ⟨?_, fun before after hcs => h (c :: before) after (by rw [hcs]; rfl)⟩
    rintro rfl hhead
    obtain ⟨after, rfl⟩ := List.head?_eq_some_iff.mp hhead
    exact List.mem_cons_of_mem _ (h [] after rfl)
  · rintro ⟨hhead, htail⟩ before after hsplit
    cases before with
    | nil =>
        obtain ⟨rfl, rfl⟩ := List.cons.inj hsplit
        have hmem := hhead rfl rfl
        simpa using hmem
    | cons b before => exact htail before after (List.cons.inj hsplit).2

/-- A closing brace closes all that was opened before it. -/
theorem Closed.append_brace {ys : List Char} (h : Closed ys) (xs : List Char) :
    Closed (xs ++ '}' :: ys) := by
  induction xs with
  | nil => exact closed_cons_iff.mpr ⟨by simp, h⟩
  | cons x xs ih => exact closed_cons_iff.mpr ⟨fun _ _ => by simp, ih⟩

theorem Closed.of_append {xs ys : List Char} (h : Closed (xs ++ ys)) : Closed ys := by
  intro before after hys
  apply h (xs ++ before) after
  rw [hys, List.append_assoc]

/-! ## Tokens of a source -/

theorem Cut.of_append {rest source : List Char} {run segs : List Segment}
    (h : Cut rest source (run ++ segs)) : ∃ tail, Cut rest tail segs := by
  induction run generalizing source with
  | nil => exact ⟨source, h⟩
  | cons s run ih =>
      cases h with
      | cons _ h => exact ih h

/-- What a run without references stands for is closed.  It starts with an opening brace only if its
source does, so that no dollar sign before it comes to stand before a brace. -/
theorem Cut.closed_run {rest source : List Char} {run segs : List Segment}
    {texts : List (List Char)} (h : Cut rest source (run ++ segs))
    (htexts : run.map Segment.chars? = texts.map some) :
    Closed texts.flatten ∧ (texts.flatten.head? = some '{' → source.head? = some '{') := by
  induction run generalizing source texts with
  | nil =>
      obtain rfl : texts = [] := by simpa using htexts.symm
      exact ⟨closed_nil, by simp⟩
  | cons s run ih =>
      cases texts with
      | nil => cases htexts
      | cons text texts =>
          obtain ⟨hs, hrun⟩ := List.cons.inj htexts
          cases h with
          | @cons _ after _ hproper h =>
              obtain ⟨hclosed, hhead⟩ := ih h hrun
              cases s with
              | literal c =>
                  cases hs
                  refine ⟨closed_cons_iff.mpr ⟨?_, hclosed⟩, id⟩
                  intro hc hbrace
                  exact absurd ⟨hc, hhead hbrace⟩ hproper
              | escape inner =>
                  cases hs
                  have hbrace := hclosed.append_brace ('$' :: '{' :: inner)
                  refine ⟨by simpa [escapeText] using hbrace, ?_⟩
                  intro hopen
                  simp [escapeText] at hopen
              | reference name => cases hs

theorem Merged.literal_closed {source : List Char} {segs : List Segment} {ts : List Token}
    (h : Merged segs ts) (hcut : Cut [] source segs) {text : String} (htext : .literal text ∈ ts) :
    Closed text.toList := by
  -- Each run is followed by the cut of the rest, whatever its source is.
  induction h generalizing source with
  | nil => cases htext
  | reference hd _ ih =>
      cases hcut with
      | cons _ hcut =>
          rcases List.mem_cons.mp htext with rfl | htext
          · cases hd
          · exact ih hcut htext
  | literal _ htexts _ _ ih =>
      rcases List.mem_cons.mp htext with he | htext
      · cases he
        rw [String.toList_ofList]
        exact (hcut.closed_run htexts).1
      · obtain ⟨tail, htail⟩ := hcut.of_append
        exact ih htail htext

/-- Tokens start with a literal just if their segments do. -/
theorem Merged.head_iff {segs : List Segment} {ts : List Token} (h : Merged segs ts) :
    (∀ s ∈ segs.head?, s.chars? = none) ↔ ∀ a, ts.head? ≠ some (.literal a) := by
  cases h with
  | nil => simp
  | reference hd _ => cases hd <;> simp [Segment.chars?]
  | @literal run segs texts ts hne htexts _ _ =>
      cases run with
      | nil => exact absurd rfl hne
      | cons s run =>
          cases texts with
          | nil => cases htexts
          | cons text texts => simp [(List.cons.inj htexts).1]

theorem Merged.literals_apart {segs : List Segment} {ts : List Token} (h : Merged segs ts)
    (a b : String) : ¬ [.literal a, .literal b] <:+: ts := by
  induction h with
  | nil => simp
  | reference hd _ ih =>
      rw [List.infix_cons_iff]
      rintro (hfront | hinside)
      · obtain ⟨rfl, _⟩ := List.cons_prefix_cons.mp hfront
        cases hd
      · exact ih hinside
  | literal _ _ hhead h ih =>
      rw [List.infix_cons_iff]
      rintro (hfront | hinside)
      · obtain ⟨_, tail, rfl⟩ := List.cons_prefix_cons.mp hfront
        exact h.head_iff.mp hhead b rfl
      · exact ih hinside

theorem Merged.capture_lt {segs : List Segment} {ts : List Token} (h : Merged segs ts)
    {index : Nat} (hindex : .capture index ∈ ts) : index < UInt64.size := by
  induction h with
  | nil => cases hindex
  | reference hd _ ih =>
      rcases List.mem_cons.mp hindex with rfl | hindex
      · cases hd with
        | capture _ _ hlt => exact hlt
      · exact ih hindex
  | literal _ _ _ _ ih =>
      rcases List.mem_cons.mp hindex with he | hindex
      · cases he
      · exact ih hindex

theorem expressible_of_parse {source : String} {t : Template} (h : parse source = .ok t) :
    Expressible t.tokens := by
  obtain ⟨_, segs, hcut, _, hmerged⟩ := merged_of_parse h
  exact ⟨fun hempty => hmerged.literal_ne_empty hempty rfl, hmerged.literals_apart,
    fun _ => hmerged.literal_closed hcut, fun _ => hmerged.capture_lt⟩

/-! ## Sources of tokens -/

theorem head?_escaped (cs : List Char) : (escaped cs).head? = cs.head? := by
  fun_cases escaped cs <;> rfl

/-- An escaped literal is cut into segments that stand for it. -/
theorem exists_cut_escaped {rest after text : List Char} {segs : List Segment}
    (hcut : Cut rest after segs) (hafter : after.head? ≠ some '{') (htext : Closed text) :
    ∃ (run : List Segment) (texts : List (List Char)),
      Cut rest (escaped text ++ after) (run ++ segs) ∧
        run.map Segment.chars? = texts.map some ∧ texts.flatten = text := by
  fun_induction escaped text with
  | case1 cs inner tail hbrace ih =>
      obtain ⟨rfl, hinner⟩ := cutBrace_eq_some_iff.mp hbrace
      have htail : Closed tail := by
        have happend : Closed (('$' :: '{' :: (inner ++ ['}'])) ++ tail) := by
          simpa using htext
        exact happend.of_append
      obtain ⟨run, texts, hrun, hchars, rfl⟩ := ih htail
      have hproper : (Segment.escape inner).Proper (escaped texts.flatten ++ after) := by
        refine ⟨fun hinside => hinner ?_, fun hlast => hinner (List.mem_of_getLast? hlast)⟩
        exact hinside.subset (by simp [closing])
      refine ⟨.escape inner :: run, escapeText inner :: texts, ?_, ?_, ?_⟩
      · simpa [Segment.written] using Cut.cons hproper hrun
      · simp [Segment.chars?, hchars]
      · simp [escapeText]
  | case2 cs hbrace => exact absurd (htext [] cs rfl) (cutBrace_eq_none_iff.mp hbrace)
  | case3 c cs hne ih =>
      obtain ⟨run, texts, hrun, hchars, hflat⟩ := ih (closed_cons_iff.mp htext).2
      -- What follows a dollar sign is escaped or not, but starts with the same character.
      have hproper : (Segment.literal c).Proper (escaped cs ++ after) := by
        rintro ⟨rfl, hhead⟩
        rw [List.head?_append, head?_escaped] at hhead
        cases cs with
        | nil => exact hafter hhead
        | cons d cs =>
            cases hhead
            exact hne cs rfl rfl
      refine ⟨.literal c :: run, [c] :: texts, .cons hproper hrun, ?_, ?_⟩
      · simp [Segment.chars?, hchars]
      · simp [hflat]
  | case4 => exact ⟨[], [], hcut, rfl, rfl⟩

theorem denotes_toDigits {index : Nat} (h : index < UInt64.size) :
    Denotes (Nat.toDigits 10 index) (.capture index) := by
  have hdigits := Decimal.all_isDigit_toDigits index
  have hvalue : Nat.ofDigitChars 10 (Nat.toDigits 10 index) 0 = index :=
    Nat.ofDigitChars_ten_toDigits
  have hdenotes : Denotes (Nat.toDigits 10 index)
      (.capture (Nat.ofDigitChars 10 (Nat.toDigits 10 index) 0)) := by
    apply Denotes.capture
    · exact Nat.toDigits_ne_nil
    · simpa using hdigits
    · rwa [hvalue]
  rwa [hvalue] at hdenotes

theorem proper_toDigits (index : Nat) (after : List Char) :
    (Segment.reference (Nat.toDigits 10 index)).Proper after := by
  have hdigit : ∀ c ∈ Nat.toDigits 10 index, c.isDigit = true := by
    simpa using Decimal.all_isDigit_toDigits index
  constructor
  · intro hmem
    cases hdigit _ hmem
  · intro hhead
    cases hdigit _ (List.mem_of_head? hhead)

theorem proper_name (f : Field) (after : List Char) :
    (Segment.reference f.name.toList).Proper after := by
  constructor <;> cases f <;> decide

theorem Expressible.tail {t : Token} {ts : List Token} (h : Expressible (t :: ts)) :
    Expressible ts :=
  ⟨fun hmem => h.literal_ne_empty (List.mem_cons_of_mem _ hmem),
    fun a b hinside => h.literals_apart a b (List.infix_cons hinside),
    fun text hmem => h.literal_closed text (List.mem_cons_of_mem _ hmem),
    fun index hmem => h.capture_lt index (List.mem_cons_of_mem _ hmem)⟩

/-- No literal follows a literal. -/
theorem Expressible.head_ne {a : String} {ts : List Token} (h : Expressible (.literal a :: ts))
    (b : String) : ts.head? ≠ some (.literal b) := by
  intro hhead
  obtain ⟨tail, rfl⟩ := List.head?_eq_some_iff.mp hhead
  exact h.literals_apart a b ⟨[], tail, rfl⟩

theorem head?_printed {ts : List Token} (h : ∀ a, ts.head? ≠ some (.literal a)) :
    (ts.flatMap Token.printed).head? ≠ some '{' := by
  cases ts with
  | nil => simp
  | cons t ts =>
      cases t with
      | literal a => exact absurd rfl (h a)
      | capture index => simp [Token.printed]
      | field f => simp [Token.printed]

/-- Printed tokens are cut into segments that merge to the tokens. -/
theorem exists_cut_printed {ts : List Token} (h : Expressible ts) :
    ∃ segs, Cut [] (ts.flatMap Token.printed) segs ∧ Merged segs ts := by
  induction ts with
  | nil => exact ⟨[], .nil, .nil⟩
  | cons t ts ih =>
      obtain ⟨segs, hcut, hmerged⟩ := ih h.tail
      rw [List.flatMap_cons]
      cases t with
      | literal text =>
          have hhead := h.head_ne
          obtain ⟨run, texts, hrun, hchars, hflat⟩ := exists_cut_escaped hcut (head?_printed hhead)
            (h.literal_closed text List.mem_cons_self)
          have hne : run ≠ [] := by
            rintro rfl
            obtain rfl : texts = [] := by simpa using hchars.symm
            obtain rfl : text = "" := by simpa using hflat.symm
            exact h.literal_ne_empty List.mem_cons_self
          have hliteral := Merged.literal hne hchars (hmerged.head_iff.mpr hhead) hmerged
          rw [hflat, String.ofList_toList] at hliteral
          exact ⟨run ++ segs, hrun, hliteral⟩
      | capture index =>
          have hdenotes := denotes_toDigits (h.capture_lt index List.mem_cons_self)
          exact ⟨_, .cons (proper_toDigits index _) hcut, .reference hdenotes hmerged⟩
      | field f => exact ⟨_, .cons (proper_name f _) hcut, .reference (.field f) hmerged⟩

theorem parse_print {ts : List Token} (h : Expressible ts) :
    parse (print ts) = .ok ⟨print ts, ts⟩ := by
  obtain ⟨segs, hcut, hmerged⟩ := exists_cut_printed h
  have hsource : Cut [] (print ts).toList segs := by
    rwa [print, String.toList_ofList]
  exact parse_of_merged hsource hmerged

/-- Tokens are those of some template just if they are expressible.  Then printing them gives a
source of them, so that the tokens of any template are read again once they are printed. -/
theorem exists_parse_iff_expressible (tokens : List Token) :
    ((∃ source t, parse source = .ok t ∧ t.tokens = tokens) ↔ Expressible tokens) ∧
    (Expressible tokens → parse (print tokens) = .ok ⟨print tokens, tokens⟩) ∧
    ∀ source t, parse source = .ok t →
      parse (print t.tokens) = .ok ⟨print t.tokens, t.tokens⟩ := by
  refine ⟨⟨?_, ?_⟩, parse_print, ?_⟩
  · rintro ⟨source, t, ht, rfl⟩
    exact expressible_of_parse ht
  · intro h
    exact ⟨print tokens, ⟨print tokens, tokens⟩, parse_print h, rfl⟩
  · intro source t ht
    exact parse_print (expressible_of_parse ht)

/-- What an escape holds ends at the first closing brace, whatever was opened in it. -/
example : print [.literal ("$" ++ escape ("$" ++ String.singleton '{' ++ "a")), .capture 7] =
    "$" ++ escape (braced ("$" ++ String.singleton '{' ++ "a")) ++ reference "7" := by
  decide +kernel

end Template
end EnvelopeRules
