import EnvelopeRules.Proofs.Template.Grammar
import EnvelopeRules.Proofs.Template.Rendering

/-!
# Substitution

Substitution goes once over the text of a template from left to right.  It copies plain text, puts
in the values of references and unwraps escapes, and never looks at what it has put out.  Rendering
the tokens of a template gives the same text, or the same error.
-/

namespace EnvelopeRules
namespace Template

/-- Where a scan of a text is, with what it has read of a name or an escape. -/
inductive Scan where
  | plain
  | name (read : List Char)
  | escaped (read : List Char)

namespace Scan

/-- The value of a reference.  A name that stands for nothing does not occur in a template. -/
def fetch (c : Captures) (e : Envelope) (name : List Char) : Eval String :=
  if name.all Char.isDigit then
    match c.matched[Nat.ofDigitChars 10 name 0]? with
    | some group => .ok (group.getD "")
    | none => .error (.captureOutOfRange (Nat.ofDigitChars 10 name 0) c.matched.length)
  else
    match Field.named? (String.ofList name) with
    | none => .ok ""
    | some f =>
      match e.get? f with
      | some v => .ok v.render
      | none => .error (.fieldNotFound f)

/-- Scans a text and adds to what was put out before. -/
def run (c : Captures) (e : Envelope) : Scan → List Char → List Char → Eval (List Char)
  | .plain, out, '$' :: '{' :: '{' :: rest => run c e (.escaped []) out rest
  | .plain, out, '$' :: '{' :: rest => run c e (.name []) out rest
  | .plain, out, ch :: rest => run c e .plain (out ++ [ch]) rest
  | .name read, out, '}' :: rest =>
    match fetch c e read with
    | .ok text => run c e .plain (out ++ text.toList) rest
    | .error err => .error err
  | .name read, out, ch :: rest => run c e (.name (read ++ [ch])) out rest
  | .escaped read, out, '}' :: '}' :: rest =>
    run c e .plain (out ++ '$' :: '{' :: read ++ ['}']) rest
  | .escaped read, out, ch :: rest => run c e (.escaped (read ++ [ch])) out rest
  | _, out, [] => .ok out

end Scan

/-- The text that a segment stands for. -/
def Segment.shown (c : Captures) (e : Envelope) : Segment → Eval String
  | .literal ch => .ok (String.ofList [ch])
  | .escape text => .ok (String.ofList (escapeText text))
  | .reference name => Scan.fetch c e name

/-- The text of a template with its references replaced. -/
def substitute (c : Captures) (e : Envelope) (source : String) : Eval String :=
  (Scan.run c e .plain [] source.toList).map String.ofList

/-- Why the reference of a name has no value. -/
inductive Unresolved (c : Captures) (e : Envelope) : List Char → EvalError → Prop
  | capture {name : List Char} {index : Nat} : Denotes name (.capture index) →
      c.matched.length ≤ index →
      Unresolved c e name (.captureOutOfRange index c.matched.length)
  | field {name : List Char} {f : Field} : Denotes name (.field f) → e.get? f = none →
      Unresolved c e name (.fieldNotFound f)

/-! ## Scanning segments -/

namespace Scan

variable {c : Captures} {e : Envelope}

theorem fetch_of_denotes {name : List Char} {t : Token} (h : Denotes name t) :
    fetch c e name = t.render c e := by
  cases h with
  | capture hne hdigits hlt =>
      have ha : name.all Char.isDigit = true := by simpa using hdigits
      cases hg : c.matched[Nat.ofDigitChars 10 name 0]? <;>
        simp [fetch, ha, Token.render, Captures.get, Captures.size, hg]
  | field f =>
      have ha : f.name.toList.all Char.isDigit = false := by
        obtain ⟨d, hd, hdigit⟩ := exists_nondigit_name f
        exact List.all_eq_false.mpr ⟨d, hd, by simp [hdigit]⟩
      cases hv : e.get? f <;> simp [fetch, ha, Token.render, Envelope.text?, hv]

theorem run_plain_literal {ch : Char} {out after : List Char}
    (h : (Segment.literal ch).Proper after) :
    run c e .plain out (ch :: after) = run c e .plain (out ++ [ch]) after := by
  rw [run]
  · rintro rest rfl rfl
    exact h ⟨rfl, rfl⟩
  · rintro rest rfl rfl
    exact h ⟨rfl, rfl⟩

theorem run_name {read name out after : List Char} (h : '}' ∉ name) :
    run c e (.name read) out (name ++ '}' :: after) =
      (fetch c e (read ++ name) >>= fun text => run c e .plain (out ++ text.toList) after) := by
  induction name generalizing read with
  | nil =>
      rw [List.nil_append, List.append_nil, run]
      cases fetch c e read <;> rfl
  | cons ch name ih =>
      rw [List.mem_cons, not_or] at h
      rw [List.cons_append, run, ih h.2, List.append_assoc, List.singleton_append]
      rintro rfl
      exact h.1 rfl

theorem run_escaped {read text out after : List Char} (h : (Segment.escape text).Proper after) :
    run c e (.escaped read) out (text ++ (closing ++ after)) =
      run c e .plain (out ++ escapeText (read ++ text)) after := by
  induction text generalizing read with
  | nil => simp [closing, run, escapeText]
  | cons ch text ih =>
      rw [List.cons_append, run, ih h.escape_tail, List.append_assoc, List.singleton_append]
      rintro rest rfl hrest
      exact h.not_closing ⟨rfl, by rw [hrest]; rfl⟩

/-- A scan of a segment puts out the text that the segment stands for. -/
theorem run_written {s : Segment} {out after : List Char} (h : s.Proper after) :
    run c e .plain out (s.written ++ after) =
      (s.shown c e >>= fun text => run c e .plain (out ++ text.toList) after) := by
  cases s with
  | literal ch => simpa [Segment.written, Segment.shown] using run_plain_literal h
  | escape text =>
      rw [written_escape, run, run_escaped h]
      simp [Segment.shown]
  | reference name =>
      rw [written_reference, run, run_name h.1, List.nil_append, Segment.shown]
      intro rest hrest
      exact h.head_ne (by rw [hrest]; rfl)

/-- A scan of a text puts out what its segments stand for, one after another. -/
theorem run_cut {text : List Char} {segs : List Segment} (hcut : Cut [] text segs)
    (out : List Char) :
    run c e .plain out text =
      (segs.mapM (Segment.shown c e)).map fun shown => out ++ shown.flatMap String.toList := by
  induction hcut generalizing out with
  | nil => simp [run, pure, Except.pure, Except.map]
  | @cons s after segs hs _ ih =>
      rw [run_written hs, List.mapM_cons]
      cases s.shown c e with
      | error err => rfl
      | ok text =>
          simp only [Result.ok_bind]
          rw [ih]
          cases segs.mapM (Segment.shown c e) with
          | error err => rfl
          | ok shown => simp [Except.map, pure, Except.pure]

end Scan

/-! ## Rendering tokens -/

variable {c : Captures} {e : Envelope}

theorem renderTokens_literal (a : String) (toks : List Token) :
    renderTokens c e (.literal a :: toks) = (renderTokens c e toks).map fun shown => a ++ shown :=
  renderTokens_cons _ _

/-- Joined literals render like the literals one after another. -/
theorem renderTokens_joinLiterals (toks : List Token) :
    renderTokens c e (joinLiterals toks) = renderTokens c e toks := by
  apply apply_joinLiterals
  · intro t ts ts' h
    rw [renderTokens, renderTokens, h]
  · intro a b ts
    rw [renderTokens_literal, renderTokens_literal, renderTokens_literal]
    cases renderTokens c e ts with
    | error err => rfl
    | ok shown => simp [Except.map, String.append_assoc]

theorem renderTokens_eq_mapM (toks : List Token) :
    renderTokens c e toks =
      (toks.mapM (Token.render c e)).map fun shown =>
        String.ofList (shown.flatMap String.toList) := by
  induction toks with
  | nil => rfl
  | cons t toks ih =>
      rw [renderTokens, List.mapM_cons, ih]
      cases t.render c e with
      | error err => rfl
      | ok text =>
          cases toks.mapM (Token.render c e) with
          | error err => rfl
          | ok shown => simp [Except.map, pure, Except.pure]

theorem shown_of_token {source : String} {s : Segment} {t : Token} (h : s.token source = .ok t) :
    s.shown c e = t.render c e := by
  cases s with
  | literal ch => cases h; rfl
  | escape text => cases h; rfl
  | reference name => exact Scan.fetch_of_denotes (resolve_eq_ok_iff.mp h)

theorem mapM_shown {source : String} {segs : List Segment} {toks : List Token}
    (h : List.Forall₂ (fun s t => s.token source = .ok t) segs toks) :
    segs.mapM (Segment.shown c e) = toks.mapM (Token.render c e) := by
  induction h with
  | nil => rfl
  | cons hst _ ih => rw [List.mapM_cons, List.mapM_cons, shown_of_token hst, ih]

/-- A template renders to what the segments of its source stand for. -/
theorem render_of_cut {source : String} {t : Template} {segs : List Segment}
    (hcut : Cut [] source.toList segs) (h : parse source = .ok t) :
    t.render c e = (segs.mapM (Segment.shown c e)).map
      fun shown => String.ofList (shown.flatMap String.toList) := by
  obtain ⟨_, segs', hcut', _, hmerged⟩ := merged_of_parse h
  obtain rfl := eq_of_cut hcut hcut'
  obtain ⟨toks, hall, htoks⟩ := tokens_of_merged source hmerged
  rw [render, ← htoks, renderTokens_joinLiterals, renderTokens_eq_mapM, mapM_shown hall]

/-! ## References without a value -/

theorem unresolved_iff {name : List Char} {t : Token} (h : Denotes name t) {err : EvalError} :
    Unresolved c e name err ↔ t.Absent c e err := by
  constructor
  · rintro (⟨hc, hle⟩ | ⟨hf, hnone⟩)
    · obtain rfl := h.unique hc
      exact .capture hle
    · obtain rfl := h.unique hf
      exact .field hnone
  · rintro (hle | hnone)
    · exact .capture h hle
    · exact .field h hnone

theorem fetch_eq_error_iff {name : List Char} {t : Token} (h : Denotes name t) {err : EvalError} :
    Scan.fetch c e name = .error err ↔ Unresolved c e name err := by
  rw [Scan.fetch_of_denotes h, Token.render_eq_error_iff, unresolved_iff h]

/-- Segments fail with the error of the leftmost reference that has no value. -/
theorem mapM_shown_eq_error_iff {segs : List Segment} (h : Meaningful segs) {err : EvalError} :
    segs.mapM (Segment.shown c e) = .error err ↔
      ∃ before name after, segs = before ++ .reference name :: after ∧
        (∀ n err, .reference n ∈ before → ¬ Unresolved c e n err) ∧ Unresolved c e name err := by
  rw [Result.mapM_eq_error_iff]
  constructor
  · rintro ⟨before, s, after, shown, rfl, hbefore, hs⟩
    cases s with
    | literal ch => cases hs
    | escape text => cases hs
    | reference name =>
        obtain ⟨t, ht⟩ := h name (by simp)
        refine ⟨before, name, after, rfl, ?_, (fetch_eq_error_iff ht).mp hs⟩
        intro n err hn hbad
        obtain ⟨u, hu⟩ := h n (List.mem_append_left _ hn)
        obtain ⟨text, hok⟩ := Result.exists_mapM_eq_ok_iff.mp ⟨shown, hbefore⟩ _ hn
        cases hok.symm.trans ((fetch_eq_error_iff hu).mpr hbad)
  · rintro ⟨before, name, after, rfl, hbefore, hbad⟩
    have hok : ∃ shown, before.mapM (Segment.shown c e) = .ok shown := by
      refine Result.exists_mapM_eq_ok_iff.mpr fun s hs => ?_
      cases hshown : s.shown c e with
      | ok text => exact ⟨text, rfl⟩
      | error err' =>
          cases s with
          | literal ch => cases hshown
          | escape text => cases hshown
          | reference n =>
              obtain ⟨u, hu⟩ := h n (List.mem_append_left _ hs)
              exact absurd ((fetch_eq_error_iff hu).mp hshown) (hbefore n err' hs)
    obtain ⟨shown, hshown⟩ := hok
    obtain ⟨t, ht⟩ := h name (by simp)
    exact ⟨before, _, after, shown, rfl, hshown, (fetch_eq_error_iff ht).mpr hbad⟩

/-- Rendering a template is one scan of its source.  It fails exactly if some reference has no
value, with the error of the leftmost such reference. -/
theorem render_eq_substitute {source : String} {t : Template} (h : parse source = .ok t)
    (c : Captures) (e : Envelope) :
    t.render c e = substitute c e source ∧
    ((∃ err, t.render c e = .error err) ↔
      ∃ segs name err, Cut [] source.toList segs ∧ .reference name ∈ segs ∧
        Unresolved c e name err) ∧
    ∀ err, t.render c e = .error err ↔
      ∃ before name after, Cut [] source.toList (before ++ .reference name :: after) ∧
        (∀ n err, .reference n ∈ before → ¬ Unresolved c e n err) ∧ Unresolved c e name err := by
  -- The scan and the tokens are both compared with the segments of the one cut.
  obtain ⟨_, segs, hcut, hmean, _⟩ := merged_of_parse h
  have hrender := render_of_cut (c := c) (e := e) hcut h
  have herror : ∀ err, t.render c e = .error err ↔ segs.mapM (Segment.shown c e) = .error err := by
    intro err
    rw [hrender, Result.map_eq_error_iff]
  refine ⟨?_, ⟨?_, ?_⟩, ?_⟩
  · rw [substitute, Scan.run_cut hcut, hrender]
    cases segs.mapM (Segment.shown c e) <;> rfl
  · rintro ⟨err, herr⟩
    obtain ⟨before, name, after, rfl, _, hbad⟩ :=
      (mapM_shown_eq_error_iff hmean).mp ((herror err).mp herr)
    exact ⟨_, name, err, hcut, by simp, hbad⟩
  · rintro ⟨segs', name, err, hcut', hname, hbad⟩
    obtain rfl := eq_of_cut hcut hcut'
    cases hshown : segs.mapM (Segment.shown c e) with
    | error err' => exact ⟨err', (herror err').mpr hshown⟩
    | ok shown =>
        obtain ⟨u, hu⟩ := hmean name hname
        obtain ⟨text, hok⟩ := Result.exists_mapM_eq_ok_iff.mp ⟨shown, hshown⟩ _ hname
        cases hok.symm.trans ((fetch_eq_error_iff hu).mpr hbad)
  · intro err
    rw [herror, mapM_shown_eq_error_iff hmean]
    constructor
    · rintro ⟨before, name, after, rfl, hrest⟩
      exact ⟨before, name, after, hcut, hrest⟩
    · rintro ⟨before, name, after, hcut', hrest⟩
      exact ⟨before, name, after, eq_of_cut hcut hcut', hrest⟩

/-- A capture, the text of a reference, and a field. -/
def mixed : Template :=
  ⟨reference "0" ++ escape "0" ++ reference "rcpt",
    [.capture 0, .literal (reference "0"), .field .rcpt]⟩

def closingRcpt : String := String.singleton '}' ++ reference "1"

/-- What is put in for one reference makes no reference with the text around it. -/
theorem render_braces_in_values :
    parse mixed.source = .ok mixed ∧
    render mixed (.whole (reference "mx")) (Envelope.empty.put .rcpt (.text closingRcpt)) =
      substitute (.whole (reference "mx")) (Envelope.empty.put .rcpt (.text closingRcpt))
        mixed.source ∧
    substitute (.whole (reference "mx")) (Envelope.empty.put .rcpt (.text closingRcpt))
        mixed.source =
      .ok (reference "mx" ++ reference "0" ++ closingRcpt) := by
  have h : parse mixed.source = .ok mixed := by decide +kernel
  exact ⟨h, (render_eq_substitute h _ _).1, by rfl⟩

end Template
end EnvelopeRules
