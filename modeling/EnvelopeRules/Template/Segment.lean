import EnvelopeRules.Text.Brace

/-!
# Segments of a template

A template is cut into single characters, references and escapes.  A reference stands between a
dollar sign with a brace and the next closing brace; with the brace doubled on both sides it is an
escape.
-/

namespace EnvelopeRules
namespace Template

/-- How a reference is written. -/
def reference (name : String) : String := "$" ++ braced name

/-- How an escape is written. -/
def escape (text : String) : String := "$" ++ braced (braced text)

inductive Segment where
  | literal (c : Char)
  | reference (name : List Char)
  | escape (text : List Char)
  deriving DecidableEq, Repr

/-- The text before the first closing brace and the text after it. -/
def cutBrace : List Char → Option (List Char × List Char)
  | [] => none
  | c :: cs => if c = '}' then some ([], cs) else (cutBrace cs).map fun r => (c :: r.1, r.2)

/-- The text before the first two closing braces in a row and the text after them. -/
def cutBraces : List Char → Option (List Char × List Char)
  | '}' :: '}' :: cs => some ([], cs)
  | c :: cs => (cutBraces cs).map fun r => (c :: r.1, r.2)
  | [] => none

theorem length_of_cutBrace {cs before after : List Char} (h : cutBrace cs = some (before, after)) :
    after.length < cs.length := by
  induction cs generalizing before after with
  | nil => simp [cutBrace] at h
  | cons c cs ih =>
    rw [cutBrace] at h
    split at h
    · cases h; simp
    · obtain ⟨r, hr, he⟩ := Option.map_eq_some_iff.mp h
      cases he
      exact Nat.lt_succ_of_lt (ih hr)

theorem length_of_cutBraces {cs before after : List Char}
    (h : cutBraces cs = some (before, after)) : after.length < cs.length := by
  fun_induction cutBraces cs generalizing before after with
  | case1 cs => cases h; simp only [List.length_cons]; omega
  | case2 c cs _ ih =>
    obtain ⟨r, hr, he⟩ := Option.map_eq_some_iff.mp h
    cases he
    exact Nat.lt_succ_of_lt (ih hr)
  | case3 => simp at h

/-- The segments of a text, and whether they reach its end.  They do not if a reference or an escape
is not closed. -/
def segments : List Char → List Segment × Bool
  | [] => ([], true)
  | '$' :: '{' :: '{' :: cs =>
    match _h : cutBraces cs with
    | some (text, rest) =>
      let r := segments rest
      (.escape text :: r.1, r.2)
    | none => ([], false)
  | '$' :: '{' :: cs =>
    match _h : cutBrace cs with
    | some (name, rest) =>
      let r := segments rest
      (.reference name :: r.1, r.2)
    | none => ([], false)
  | c :: cs =>
    let r := segments cs
    (.literal c :: r.1, r.2)
termination_by cs => cs.length
decreasing_by
  · have := length_of_cutBraces _h
    simp only [List.length_cons]; omega
  · have := length_of_cutBrace _h
    simp only [List.length_cons]; omega
  · simp

end Template
end EnvelopeRules
