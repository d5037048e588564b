import EnvelopeRules.Template.Basic
import EnvelopeRules.Proofs.Result
import EnvelopeRules.Proofs.Template.Cut

/-!
# The grammar of templates

A text is a template if it can be cut into segments of which every reference names a capture or a
field.  Reading finds these segments, with neighbouring literals joined, and says of every other
text which name is the first bad one or that something is not closed.
-/

namespace EnvelopeRules
namespace Template

/-- The capture or the field that a name stands for. -/
inductive Denotes : List Char → Token → Prop
  | capture {name : List Char} : name ≠ [] → (∀ c ∈ name, c.isDigit = true) →
      Nat.ofDigitChars 10 name 0 < UInt64.size →
      Denotes name (.capture (Nat.ofDigitChars 10 name 0))
  | field (f : Field) : Denotes f.name.toList (.field f)

/-- Why a name stands for nothing. -/
inductive Misnamed (source : String) : List Char → TemplateError → Prop
  | empty : Misnamed source [] (.invalidToken source "")
  | tooLarge {name : List Char} : name ≠ [] → (∀ c ∈ name, c.isDigit = true) →
      UInt64.size ≤ Nat.ofDigitChars 10 name 0 →
      Misnamed source name (.invalidToken source (String.ofList name))
  | unknown {name : List Char} : (∃ c ∈ name, c.isDigit = false) →
      (∀ f : Field, f.name.toList ≠ name) →
      Misnamed source name (.unknownField (String.ofList name))

/-- Whether all references of some segments stand for something. -/
def Meaningful (segs : List Segment) : Prop :=
  ∀ name, .reference name ∈ segs → ∃ t, Denotes name t

/-- What a segment adds to a literal; a reference ends the literal. -/
def Segment.chars? : Segment → Option (List Char)
  | .literal c => some [c]
  | .escape text => some (escapeText text)
  | .reference _ => none

/-- The tokens of some segments: every longest run without a reference is one literal. -/
inductive Merged : List Segment → List Token → Prop
  | nil : Merged [] []
  | reference {name : List Char} {t : Token} {segs : List Segment} {ts : List Token} :
      Denotes name t → Merged segs ts → Merged (.reference name :: segs) (t :: ts)
  | literal {run segs : List Segment} {texts : List (List Char)} {ts : List Token} :
      run ≠ [] → run.map Segment.chars? = texts.map some →
      (∀ s ∈ segs.head?, s.chars? = none) → Merged segs ts →
      Merged (run ++ segs) (.literal (String.ofList texts.flatten) :: ts)

/-- Why a text is no template: the first bad name that is closed, or else what is not closed. -/
inductive Rejects (source : String) : TemplateError → Prop
  | misnamed {segs : List Segment} {name rest : List Char} {e : TemplateError} :
      Cut ((Segment.reference name).written ++ rest) source.toList segs → Meaningful segs →
      (Segment.reference name).Proper rest → Misnamed source name e → Rejects source e
  | unclosed {segs : List Segment} {rest : List Char} :
      Cut ('$' :: '{' :: rest) source.toList segs → Meaningful segs → Unclosed rest →
      Rejects source (.unterminated source)

/-! ## Names -/

theorem exists_nondigit_name (f : Field) : ∃ c ∈ f.name.toList, c.isDigit = false := by
  have hany : (f.name.toList.any fun c => !c.isDigit) = true := by cases f <;> decide
  simpa using hany

theorem named?_ofList_iff {name : List Char} {f : Field} :
    Field.named? (String.ofList name) = some f ↔ f.name.toList = name := by
  rw [Field.named?_eq_some_iff]
  constructor
  · intro h
    rw [h, String.toList_ofList]
  · intro h
    rw [← h, String.ofList_toList]

theorem resolve_of_denotes (source : String) {name : List Char} {t : Token}
    (h : Denotes name t) : resolve source name = .ok t := by
  cases h with
  | capture hne hdigits hlt =>
      have he : name.isEmpty = false := by simpa using hne
      have ha : name.all Char.isDigit = true := by simpa using hdigits
      simp only [resolve, he, ha, if_true, Bool.false_eq_true, if_false]
      exact if_pos hlt
  | field f =>
      have he : f.name.toList.isEmpty = false := by cases f <;> decide
      have ha : f.name.toList.all Char.isDigit = false := by
        obtain ⟨c, hc, hd⟩ := exists_nondigit_name f
        exact List.all_eq_false.mpr ⟨c, hc, by simp [hd]⟩
      simp [resolve, he, ha]

theorem resolve_of_misnamed {source : String} {name : List Char} {e : TemplateError}
    (h : Misnamed source name e) : resolve source name = .error e := by
  cases h with
  | empty => rfl
  | tooLarge hne hdigits hle =>
      have he : name.isEmpty = false := by simpa using hne
      have ha : name.all Char.isDigit = true := by simpa using hdigits
      simp only [resolve, he, ha, if_true, Bool.false_eq_true, if_false]
      exact if_neg (Nat.not_lt.mpr hle)
  | unknown hdigits hnone =>
      obtain ⟨c, hc, hd⟩ := hdigits
      have he : name.isEmpty = false := by simpa using List.ne_nil_of_mem hc
      have ha : name.all Char.isDigit = false := List.all_eq_false.mpr ⟨c, hc, by simp [hd]⟩
      have hn : Field.named? (String.ofList name) = none := by
        rw [Option.eq_none_iff_forall_ne_some]
        exact fun f hf => hnone f (named?_ofList_iff.mp hf)
      simp [resolve, he, ha, hn]

theorem denotes_or_misnamed (source : String) (name : List Char) :
    (∃ t, Denotes name t) ∨ ∃ e, Misnamed source name e := by
  by_cases hne : name = []
  · subst hne
    exact .inr ⟨_, .empty⟩
  by_cases hdigits : ∀ c ∈ name, c.isDigit = true
  · rcases Nat.lt_or_ge (Nat.ofDigitChars 10 name 0) UInt64.size with hlt | hle
    · exact .inl ⟨_, .capture hne hdigits hlt⟩
    · exact .inr ⟨_, .tooLarge hne hdigits hle⟩
  by_cases hfield : ∃ f : Field, f.name.toList = name
  · obtain ⟨f, rfl⟩ := hfield
    exact .inl ⟨_, .field f⟩
  · exact .inr ⟨_, .unknown (by simpa using hdigits) (by simpa using hfield)⟩

theorem resolve_eq_ok_iff {source : String} {name : List Char} {t : Token} :
    resolve source name = .ok t ↔ Denotes name t := by
  refine ⟨fun h => ?_, resolve_of_denotes source⟩
  rcases denotes_or_misnamed source name with ⟨t', ht'⟩ | ⟨e, he⟩
  · cases (resolve_of_denotes source ht').symm.trans h
    exact ht'
  · cases (resolve_of_misnamed he).symm.trans h

theorem resolve_eq_error_iff {source : String} {name : List Char} {e : TemplateError} :
    resolve source name = .error e ↔ Misnamed source name e := by
  refine ⟨fun h => ?_, resolve_of_misnamed⟩
  rcases denotes_or_misnamed source name with ⟨t, ht⟩ | ⟨e', he'⟩
  · cases (resolve_of_denotes source ht).symm.trans h
  · cases (resolve_of_misnamed he').symm.trans h
    exact he'

theorem Denotes.unique {name : List Char} {t u : Token} (ht : Denotes name t)
    (hu : Denotes name u) :
    t = u := by
  cases (resolve_of_denotes "" ht).symm.trans (resolve_of_denotes "" hu)
  rfl

/-! ## Tokens -/

theorem token_of_chars {source : String} {s : Segment} {text : List Char}
    (h : s.chars? = some text) : s.token source = .ok (.literal (String.ofList text)) := by
  cases s with
  | literal c => cases h; rfl
  | escape t => cases h; rfl
  | reference name => cases h

/-- Joining starts with a literal only if the tokens do. -/
theorem head?_joinLiterals_ne {ts : List Token}
    (h : ∀ a, ts.head? ≠ some (.literal a)) (a : String) :
    (joinLiterals ts).head? ≠ some (.literal a) := by
  cases ts with
  | nil => simp [joinLiterals]
  | cons t ts =>
      cases t with
      | literal b => exact absurd rfl (h b)
      | capture n => simp [joinLiterals]
      | field f => simp [joinLiterals]

theorem joinLiterals_cons_of_ne {t : Token} {ts : List Token} (h : ∀ a, t ≠ .literal a) :
    joinLiterals (t :: ts) = t :: joinLiterals ts := by
  cases t with
  | literal b => exact absurd rfl (h b)
  | capture n => simp [joinLiterals]
  | field f => simp [joinLiterals]

theorem joinLiterals_literal_of_head {ts : List Token} (a : String)
    (h : ∀ b, (joinLiterals ts).head? ≠ some (.literal b)) :
    joinLiterals (.literal a :: ts) = .literal a :: joinLiterals ts := by
  cases hts : joinLiterals ts with
  | nil => simp [joinLiterals, hts]
  | cons t rest =>
      cases t with
      | literal b => exact absurd (by rw [hts]; rfl) (h b)
      | capture n => simp [joinLiterals, hts]
      | field f => simp [joinLiterals, hts]

theorem joinLiterals_literal_of_literal {ts rest : List Token} (a : String) {b : String}
    (h : joinLiterals ts = .literal b :: rest) :
    joinLiterals (.literal a :: ts) = .literal (a ++ b) :: rest := by
  simp only [joinLiterals, h]

/-- A literal in front joins the literal that starts the rest, if one does. -/
theorem joinLiterals_literal_cases (a : String) (ts : List Token) :
    (∃ b rest, joinLiterals ts = .literal b :: rest ∧
      joinLiterals (.literal a :: ts) = .literal (a ++ b) :: rest) ∨
    ((∀ b, (joinLiterals ts).head? ≠ some (.literal b)) ∧
      joinLiterals (.literal a :: ts) = .literal a :: joinLiterals ts) := by
  by_cases hhead : ∃ b, (joinLiterals ts).head? = some (.literal b)
  · obtain ⟨b, hb⟩ := hhead
    obtain ⟨rest, hrest⟩ := List.head?_eq_some_iff.mp hb
    exact .inl ⟨b, rest, hrest, joinLiterals_literal_of_literal a hrest⟩
  · have hne : ∀ b, (joinLiterals ts).head? ≠ some (.literal b) := fun b hb => hhead ⟨b, hb⟩
    exact .inr ⟨hne, joinLiterals_literal_of_head a hne⟩

/-- What sees only the text of literals next to each other does not see that they are joined. -/
theorem apply_joinLiterals {β : Type} {f : List Token → β}
    (hcons : ∀ t ts ts', f ts = f ts' → f (t :: ts) = f (t :: ts'))
    (hjoin : ∀ a b ts, f (.literal (a ++ b) :: ts) = f (.literal a :: .literal b :: ts))
    (ts : List Token) : f (joinLiterals ts) = f ts := by
  induction ts with
  | nil => rfl
  | cons t ts ih =>
      by_cases ht : ∃ a, t = .literal a
      · obtain ⟨a, rfl⟩ := ht
        rcases joinLiterals_literal_cases a ts with ⟨b, rest, hb, hcase⟩ | ⟨_, hcase⟩
        · rw [hcase, hjoin, ← hb]
          exact hcons _ _ _ ih
        · rw [hcase]
          exact hcons _ _ _ ih
      · rw [joinLiterals_cons_of_ne (by simpa using ht)]
        exact hcons _ _ _ ih

/-- A run of literals becomes one if no literal follows it. -/
theorem joinLiterals_run {texts : List (List Char)} {rest : List Token} (hne : texts ≠ [])
    (h : ∀ b, (joinLiterals rest).head? ≠ some (.literal b)) :
    joinLiterals (texts.map (fun x => Token.literal (String.ofList x)) ++ rest) =
      .literal (String.ofList texts.flatten) :: joinLiterals rest := by
  induction texts with
  | nil => exact absurd rfl hne
  | cons x texts ih =>
      cases texts with
      | nil => simpa using joinLiterals_literal_of_head (String.ofList x) h
      | cons y texts =>
          rw [List.map_cons, List.cons_append, joinLiterals_literal_of_literal _ (ih (by simp)),
            ← String.ofList_append, ← List.flatten_cons]

/-! ## Merging -/

theorem Merged.cons_before_reference {s : Segment} {segs : List Segment} {text : List Char}
    {ts : List Token} (hs : s.chars? = some text) (h : Merged segs ts)
    (hts : ∀ b, ts.head? ≠ some (.literal b)) :
    Merged (s :: segs) (.literal (String.ofList text) :: ts) := by
  have hhead : ∀ r ∈ segs.head?, r.chars? = none := by
    cases h with
    | nil => simp
    | reference hd _ =>
        intro r hr
        cases hr
        rfl
    | literal _ _ _ _ => exact absurd rfl (hts _)
  have hmerged : Merged ([s] ++ segs) (.literal (String.ofList [text].flatten) :: ts) :=
    .literal (by simp) (by simp [hs]) hhead h
  simpa using hmerged

theorem Merged.cons_in_run {s : Segment} {segs : List Segment} {text : List Char} {b : String}
    {ts : List Token} (hs : s.chars? = some text) (h : Merged segs (.literal b :: ts)) :
    Merged (s :: segs) (.literal (String.ofList text ++ b) :: ts) := by
  cases h with
  | reference hd _ => cases hd
  | @literal run segs texts _ hne htexts hhead h =>
      have hrun : (s :: run).map Segment.chars? = (text :: texts).map some := by
        rw [List.map_cons, hs, htexts, List.map_cons]
      simpa [String.ofList_append] using Merged.literal (by simp) hrun hhead h

theorem Segment.ne_nil_of_chars {s : Segment} {text : List Char} (h : s.chars? = some text) :
    text ≠ [] := by
  cases s with
  | literal c => cases h; simp
  | escape t => cases h; simp [escapeText]
  | reference name => cases h

theorem Merged.literal_ne_empty {segs : List Segment} {ts : List Token} (h : Merged segs ts)
    {text : String} (htext : .literal text ∈ ts) : text ≠ "" := by
  induction h with
  | nil => cases htext
  | reference hd _ ih =>
      rcases List.mem_cons.mp htext with rfl | htext
      · cases hd
      · exact ih htext
  | @literal run segs texts ts hne htexts _ _ ih =>
      rcases List.mem_cons.mp htext with he | htext
      · cases he
        cases run with
        | nil => exact absurd rfl hne
        | cons s run =>
            cases texts with
            | nil => cases htexts
            | cons x texts =>
                have hx : x ≠ [] := Segment.ne_nil_of_chars (List.cons.inj htexts).1
                intro hempty
                have hnil := congrArg String.toList hempty
                simp [hx] at hnil
      · exact ih htext

/-- Joining the tokens of segments one by one merges them. -/
theorem merged_of_tokens {source : String} {segs : List Segment} {toks : List Token}
    (h : List.Forall₂ (fun s t => s.token source = .ok t) segs toks) :
    Merged segs (joinLiterals toks) := by
  induction h with
  | nil => exact .nil
  | @cons s t segs toks hst _ ih =>
      cases hs : s.chars? with
      | some text =>
          cases (token_of_chars hs).symm.trans hst
          rcases joinLiterals_literal_cases (String.ofList text) toks with
            ⟨b, rest, hb, hjoin⟩ | ⟨hne, hjoin⟩
          · rw [hjoin]
            exact .cons_in_run hs (hb ▸ ih)
          · rw [hjoin]
            exact .cons_before_reference hs ih hne
      | none =>
          cases s with
          | literal c => cases hs
          | escape text => cases hs
          | reference name =>
              have hd : Denotes name t := resolve_eq_ok_iff.mp hst
              rw [joinLiterals_cons_of_ne (by rintro a rfl; cases hd)]
              exact .reference hd ih

theorem forall₂_token_of_chars {source : String} {run : List Segment} {texts : List (List Char)}
    (h : run.map Segment.chars? = texts.map some) :
    List.Forall₂ (fun s t => s.token source = .ok t) run
      (texts.map fun x => .literal (String.ofList x)) := by
  induction run generalizing texts with
  | nil =>
      cases texts with
      | nil => exact .nil
      | cons x texts => cases h
  | cons s run ih =>
      cases texts with
      | nil => cases h
      | cons x texts =>
          obtain ⟨hs, hrun⟩ := List.cons.inj h
          exact .cons (token_of_chars hs) (ih hrun)

/-- Merged segments are tokens that were joined. -/
theorem tokens_of_merged (source : String) {segs : List Segment} {ts : List Token}
    (h : Merged segs ts) :
    ∃ toks, List.Forall₂ (fun s t => s.token source = .ok t) segs toks ∧
      joinLiterals toks = ts := by
  induction h with
  | nil => exact ⟨[], .nil, rfl⟩
  | @reference name t segs ts hd _ ih =>
      obtain ⟨toks, hall, rfl⟩ := ih
      refine ⟨t :: toks, .cons (resolve_of_denotes source hd) hall, joinLiterals_cons_of_ne ?_⟩
      rintro a rfl
      cases hd
  | @literal run segs texts ts hne htexts hhead _ ih =>
      obtain ⟨toks, hall, rfl⟩ := ih
      have htoks : ∀ a, toks.head? ≠ some (.literal a) := by
        rintro a ha
        cases hall with
        | nil => cases ha
        | @cons s t segs toks hst _ =>
            cases ha
            cases s with
            | literal c => cases hhead _ rfl
            | escape text => cases hhead _ rfl
            | reference name => cases resolve_eq_ok_iff.mp hst
      refine ⟨_, List.rel_append (forall₂_token_of_chars htexts) hall, ?_⟩
      refine joinLiterals_run ?_ (head?_joinLiterals_ne htoks)
      rintro rfl
      exact hne (by simpa using htexts)

/-! ## Reading -/

theorem meaningful_iff (source : String) {segs : List Segment} :
    Meaningful segs ↔ ∃ toks, segs.mapM (Segment.token source) = .ok toks := by
  rw [Result.exists_mapM_eq_ok_iff]
  constructor
  · intro h s hs
    cases s with
    | literal c => exact ⟨_, rfl⟩
    | escape text => exact ⟨_, rfl⟩
    | reference name =>
        obtain ⟨t, ht⟩ := h name hs
        exact ⟨t, resolve_of_denotes source ht⟩
  · intro h name hname
    obtain ⟨t, ht⟩ := h _ hname
    exact ⟨t, resolve_eq_ok_iff.mp ht⟩

theorem Cut.split {rest source : List Char} {before after : List Segment} {s : Segment}
    (h : Cut rest source (before ++ s :: after)) :
    ∃ tail, Cut (s.written ++ tail) source before ∧ s.Proper tail ∧ Cut rest tail after := by
  induction before generalizing source with
  | nil =>
      cases h with
      | cons hs h => exact ⟨_, .nil, hs, h⟩
  | cons r before ih =>
      cases h with
      | cons hr h =>
          obtain ⟨tail, hbefore, hs, hafter⟩ := ih h
          exact ⟨tail, .cons hr hbefore, hs, hafter⟩

theorem parse_of_merged {source : String} {segs : List Segment} {ts : List Token}
    (hcut : Cut [] source.toList segs) (h : Merged segs ts) : parse source = .ok ⟨source, ts⟩ := by
  obtain ⟨toks, hall, rfl⟩ := tokens_of_merged source h
  have htoks : segs.mapM (Segment.token source) = .ok toks := Result.mapM_eq_ok_iff.mpr hall
  simp [parse, segments_eq_true_iff.mpr hcut, htoks]

theorem merged_of_parse {source : String} {t : Template} (h : parse source = .ok t) :
    t.source = source ∧ ∃ segs, Cut [] source.toList segs ∧ Meaningful segs ∧
      Merged segs t.tokens := by
  unfold parse at h
  dsimp only at h
  split at h
  · cases h
  · rename_i toks htoks
    split at h
    · rename_i hend
      cases h
      have hcut : Cut [] source.toList (segments source.toList).1 :=
        segments_eq_true_iff.mp (Prod.ext rfl hend)
      exact ⟨rfl, _, hcut, (meaningful_iff _).mpr ⟨toks, htoks⟩,
        merged_of_tokens (Result.mapM_eq_ok_iff.mp htoks)⟩
    · cases h

theorem rejects_of_token {source : String} {e : TemplateError}
    (h : (segments source.toList).1.mapM (Segment.token source) = .error e) : Rejects source e := by
  obtain ⟨before, s, after, toks, hsplit, htoks, he⟩ := Result.mapM_eq_error_iff.mp h
  obtain ⟨rest, hcut⟩ := exists_cut_segments source.toList
  rw [hsplit] at hcut
  obtain ⟨tail, hbefore, hproper, _⟩ := hcut.split
  cases s with
  | literal c => cases he
  | escape text => cases he
  | reference name =>
      exact .misnamed hbefore ((meaningful_iff _).mpr ⟨toks, htoks⟩) hproper
        (resolve_eq_error_iff.mp he)

theorem rejects_of_parse {source : String} {e : TemplateError} (h : parse source = .error e) :
    Rejects source e := by
  unfold parse at h
  dsimp only at h
  split at h
  · rename_i htoks
    cases h
    exact rejects_of_token htoks
  · rename_i toks htoks
    split at h
    · cases h
    · rename_i hopen
      cases h
      obtain ⟨rest, hcut, hrest⟩ :=
        segments_eq_false_iff.mp (Prod.ext rfl (Bool.eq_false_iff.mpr hopen))
      exact .unclosed hcut ((meaningful_iff _).mpr ⟨toks, htoks⟩) hrest

theorem parse_of_rejects {source : String} {e : TemplateError} (h : Rejects source e) :
    parse source = .error e := by
  cases h with
  | @misnamed segs name rest _ hcut hmean hname he =>
      obtain ⟨toks, htoks⟩ := (meaningful_iff source).mp hmean
      have hsegs := segments_of_cut hcut
      rw [segments_written hname] at hsegs
      have herr : (segments source.toList).1.mapM (Segment.token source) = .error e := by
        rw [hsegs]
        exact Result.mapM_eq_error_iff.mpr
          ⟨segs, _, _, toks, rfl, htoks, resolve_of_misnamed he⟩
      simp [parse, herr]
  | @unclosed segs rest hcut hmean hopen =>
      obtain ⟨toks, htoks⟩ := (meaningful_iff source).mp hmean
      have hsegs : segments source.toList = (segs, false) :=
        segments_eq_false_iff.mpr ⟨rest, hcut, hopen⟩
      simp [parse, hsegs, htoks]

/-- Reading accepts exactly the texts that the grammar cuts into meaningful segments, in one way
only.  It gives their tokens, of which no literal is empty, and refuses every other text for the
first reason there is. -/
theorem parse_iff_grammar (source : String) :
    ((∃ t, parse source = .ok t) ↔ ∃ segs, Cut [] source.toList segs ∧ Meaningful segs) ∧
    (∀ segs segs', Cut [] source.toList segs → Cut [] source.toList segs' → segs = segs') ∧
    (∀ t, parse source = .ok t ↔ t.source = source ∧
      ∃ segs, Cut [] source.toList segs ∧ Meaningful segs ∧ Merged segs t.tokens) ∧
    (∀ t text, parse source = .ok t → .literal text ∈ t.tokens → text ≠ "") ∧
    (∀ e, parse source = .error e ↔ Rejects source e) := by
  refine ⟨⟨?_, ?_⟩, fun _ _ => eq_of_cut, ?_, ?_, fun e => ⟨rejects_of_parse, parse_of_rejects⟩⟩
  · rintro ⟨t, ht⟩
    obtain ⟨_, segs, hcut, hmean, _⟩ := merged_of_parse ht
    exact ⟨segs, hcut, hmean⟩
  · rintro ⟨segs, hcut, hmean⟩
    obtain ⟨toks, htoks⟩ := (meaningful_iff source).mp hmean
    have hmerged := merged_of_tokens (Result.mapM_eq_ok_iff.mp htoks)
    exact ⟨_, parse_of_merged hcut hmerged⟩
  · refine fun t => ⟨merged_of_parse, ?_⟩
    obtain ⟨source', tokens⟩ := t
    rintro ⟨rfl, segs, hcut, _, hmerged⟩
    exact parse_of_merged hcut hmerged
  · intro t text ht htext
    obtain ⟨_, segs, _, _, hmerged⟩ := merged_of_parse ht
    exact hmerged.literal_ne_empty htext

end Template
end EnvelopeRules
