import EnvelopeRules.Proofs.Result
import EnvelopeRules.Template.Basic

/-!
# Rendering templates

A template fails to render only if it refers to something that is not there.  One that refers to
nothing renders to its own text, whatever the captures and the envelope.
-/

namespace EnvelopeRules
namespace Template

variable {t : Template} {c : Captures} {e : Envelope}

/-! ## Failures -/

/-- What a token refers to and neither the captures nor the envelope has. -/
inductive Token.Absent (c : Captures) (e : Envelope) : Token → EvalError → Prop
  | capture {index : Nat} : c.size ≤ index →
      Absent c e (.capture index) (.captureOutOfRange index c.size)
  | field {f : Field} : e.get? f = none → Absent c e (.field f) (.fieldNotFound f)

theorem Token.render_eq_error_iff {k : Token} {err : EvalError} :
    k.render c e = .error err ↔ k.Absent c e err := by
  constructor
  · intro h
    cases k with
    | literal text => cases h
    | capture index =>
        rw [Token.render, Captures.get] at h
        split at h
        · cases h
        · rename_i hnone
          cases h
          exact .capture (List.getElem?_eq_none_iff.mp hnone)
    | field f =>
        rw [Token.render] at h
        split at h
        · cases h
        · rename_i hnone
          cases h
          exact .field (Option.map_eq_none_iff.mp hnone)
  · rintro (hle | hnone)
    · have hg : c.matched[_]? = none := List.getElem?_eq_none_iff.mpr hle
      rw [Token.render, Captures.get, hg]
    · rw [Token.render, Envelope.text?, hnone]
      rfl

theorem renderTokens_cons (k : Token) (ks : List Token) :
    renderTokens c e (k :: ks) =
      k.render c e >>= fun text => (renderTokens c e ks).map fun rest => text ++ rest := by
  rw [renderTokens]
  cases k.render c e with
  | error err => rfl
  | ok text => cases renderTokens c e ks <;> rfl

theorem exists_absent_of_renderTokens {ks : List Token} {err : EvalError}
    (h : renderTokens c e ks = .error err) : ∃ k ∈ ks, k.Absent c e err := by
  induction ks with
  | nil => cases h
  | cons k ks ih =>
      rw [renderTokens_cons] at h
      cases hk : k.render c e with
      | error err' =>
          rw [hk] at h
          cases h
          exact ⟨k, List.mem_cons_self, Token.render_eq_error_iff.mp hk⟩
      | ok text =>
          rw [hk, Result.ok_bind, Result.map_eq_error_iff] at h
          obtain ⟨k', hk', herr⟩ := ih h
          exact ⟨k', List.mem_cons_of_mem _ hk', herr⟩

/-- What some templates refer to and is not there when one of them is rendered. -/
inductive Lacks (ts : List Template) (e : Envelope) : EvalError → Prop
  | field {t : Template} {f : Field} : t ∈ ts → .field f ∈ t.tokens → e.get? f = none →
      Lacks ts e (.fieldNotFound f)
  | capture {t : Template} {index available : Nat} : t ∈ ts → .capture index ∈ t.tokens →
      available ≤ index → Lacks ts e (.captureOutOfRange index available)

theorem lacks_of_render {ts : List Template} {err : EvalError} (ht : t ∈ ts)
    (h : t.render c e = .error err) : Lacks ts e err := by
  obtain ⟨k, hk, habsent⟩ := exists_absent_of_renderTokens h
  cases habsent with
  | capture hle => exact .capture ht hk hle
  | field hnone => exact .field ht hk hnone

/-! ## References -/

/-- Whether a template refers to a capture or to a field. -/
def Refers (t : Template) : Prop := (∃ index, .capture index ∈ t.tokens) ∨ ∃ f, .field f ∈ t.tokens

theorem renderTokens_of_texts {ks : List Token} {texts : List String}
    (h : ks.mapM Token.text? = some texts) : renderTokens c e ks = .ok (String.join texts) := by
  induction ks generalizing texts with
  | nil =>
      cases h
      rfl
  | cons k ks ih =>
      simp only [List.mapM_cons, Option.bind_eq_bind, Option.bind_eq_some_iff] at h
      obtain ⟨text, hk, rest, hks, he⟩ := h
      cases he
      cases k with
      | literal a =>
          cases hk
          rw [renderTokens_cons, ih hks, String.join_cons]
          rfl
      | capture index => cases hk
      | field f => cases hk

/-- A template without references renders to its own text. -/
theorem render_of_staticText {text : String} (h : t.staticText? = some text) :
    t.render c e = .ok text := by
  obtain ⟨texts, htexts, rfl⟩ := Option.map_eq_some_iff.mp h
  exact renderTokens_of_texts htexts

theorem exists_texts {ks : List Token} (h : ∀ k ∈ ks, ∃ text, k.text? = some text) :
    ∃ texts, ks.mapM Token.text? = some texts := by
  induction ks with
  | nil => exact ⟨[], rfl⟩
  | cons k ks ih =>
      obtain ⟨text, hk⟩ := h k List.mem_cons_self
      obtain ⟨texts, hks⟩ := ih fun k' hk' => h k' (List.mem_cons_of_mem _ hk')
      exact ⟨text :: texts, by simp [hk, hks]⟩

theorem refers_of_staticText (h : t.staticText? = none) : t.Refers := by
  by_contra hrefers
  have hliteral : ∀ k ∈ t.tokens, ∃ text, k.text? = some text := by
    intro k hk
    cases k with
    | literal text => exact ⟨text, rfl⟩
    | capture index => exact absurd (.inl ⟨index, hk⟩) hrefers
    | field f => exact absurd (.inr ⟨f, hk⟩) hrefers
  obtain ⟨texts, htexts⟩ := exists_texts hliteral
  simp [staticText?, htexts] at h

end Template
end EnvelopeRules
