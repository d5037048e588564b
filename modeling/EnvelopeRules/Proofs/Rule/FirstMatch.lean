import EnvelopeRules.Proofs.Rule.Asking

/-!
# The first match decides

The first condition of a rule that holds, or that cannot be evaluated, decides on the outcome with
its own captures and its own template.  What stands behind it does not count, and the fallback
counts only if no condition holds.
-/

namespace EnvelopeRules

/-! ## Conditions -/

/-- Whether an operator holds on a text, and what it captures there. -/
inductive Operator.Holds : Operator → String → Captures → Prop
  | equals (operand : String) : Holds (.equals operand) operand ⟨[some operand]⟩
  | startsWith (operand rest : String) :
      Holds (.startsWith operand) (operand ++ rest) ⟨[some (operand ++ rest)]⟩
  | pattern {regex : Regex} {text : String} {groups : List (Option String)} :
      regex.captures? text = some groups → Holds (.pattern regex) text ⟨groups⟩

theorem Operator.captures?_eq_some_iff {o : Operator} {text : String} {captures : Captures} :
    o.captures? text = some captures ↔ o.Holds text captures := by
  constructor
  · intro h
    cases o with
    | equals operand =>
        rw [captures?] at h
        split at h
        · rename_i heq
          cases h
          subst heq
          exact .equals text
        · cases h
    | startsWith operand =>
        rw [captures?] at h
        split at h
        · rename_i hstart
          cases h
          obtain ⟨rest, hrest⟩ := List.isPrefixOf_iff_prefix.mp hstart
          obtain rfl : operand ++ String.ofList rest = text := by
            apply String.toList_inj.mp
            simpa using hrest
          exact .startsWith operand _
        · cases h
    | pattern regex =>
        obtain ⟨groups, hgroups, rfl⟩ := Option.map_eq_some_iff.mp h
        exact .pattern hgroups
  · intro h
    cases h with
    | equals operand => simp [captures?, Captures.whole]
    | startsWith operand rest => simp [captures?, Captures.whole]
    | pattern hgroups => simp [captures?, hgroups]

/-- What a condition comes to on an envelope. -/
structure Condition.Tested (c : Condition) (e : Envelope) : Prop where
  error : ∀ err, c.evaluate e = .error err ↔
    e.get? c.field = none ∧ err = .fieldNotFound c.field
  matched : ∀ captures, c.evaluate e = .ok (some captures) ↔
    ∃ v, e.get? c.field = some v ∧ c.operator.Holds v.render captures
  notMatched : c.evaluate e = .ok none ↔
    ∃ v, e.get? c.field = some v ∧ ∀ captures, ¬ c.operator.Holds v.render captures

theorem Condition.evaluate_eq_ok_iff {c : Condition} {e : Envelope} {found : Option Captures} :
    c.evaluate e = .ok found ↔
      ∃ v, e.get? c.field = some v ∧ c.operator.captures? v.render = found := by
  rw [evaluate, Envelope.text?]
  cases e.get? c.field <;> simp

theorem Condition.tested (c : Condition) (e : Envelope) : c.Tested e := by
  refine ⟨fun _ => evaluate_eq_error_iff, ?_, ?_⟩
  · intro captures
    simp only [evaluate_eq_ok_iff, Operator.captures?_eq_some_iff]
  · simp only [evaluate_eq_ok_iff, Option.eq_none_iff_forall_ne_some, ne_eq,
      Operator.captures?_eq_some_iff]

/-! ## Rules -/

namespace Rule

/-- The result of an evaluation, or of the next one if there was no match. -/
def orElse (result next : Eval (Outcome × Captures)) : Eval (Outcome × Captures) :=
  match result with
  | .ok (.noMatch, _) => next
  | result => result

/-- What decides on conditions with a fallback: the first condition that holds or cannot be
evaluated, or the fallback if there is none. -/
structure DecidedInTurn (e : Envelope) (conditions : List Condition) (fallback : Option Value) :
    Prop where
  rendered : ∀ text captures,
    (Rule.conditional conditions fallback).evaluateCaptured e = .ok (.rendered text, captures) ↔
      ∃ before c after, conditions = before ++ c :: after ∧ NoneHolds e before ∧
        c.evaluate e = .ok (some captures) ∧ c.result.render captures e = .ok text
  error : ∀ err,
    (Rule.conditional conditions fallback).evaluateCaptured e = .error err ↔
      ∃ before c after, conditions = before ++ c :: after ∧ NoneHolds e before ∧
        (c.evaluate e = .error err ∨
          ∃ captures, c.evaluate e = .ok (some captures) ∧ c.result.render captures e = .error err)
  noMatch : ∀ captures,
    (Rule.conditional conditions fallback).evaluateCaptured e = .ok (.noMatch, captures) ↔
      fallback = none ∧ captures = .none ∧ NoneHolds e conditions
  literal : ∀ v captures,
    (Rule.conditional conditions fallback).evaluateCaptured e = .ok (.literal v, captures) ↔
      fallback = some v ∧ captures = .none ∧ NoneHolds e conditions
  rest : ∀ before c after, conditions = before ++ c :: after → NoneHolds e before →
    c.evaluate e ≠ .ok none → ∀ after' fallback',
      (Rule.conditional conditions fallback).evaluateCaptured e =
        (Rule.conditional (before ++ c :: after') fallback').evaluateCaptured e
  append : ∀ more,
    (Rule.conditional (conditions ++ more) fallback).evaluateCaptured e =
      orElse ((Rule.conditional conditions none).evaluateCaptured e)
        ((Rule.conditional more fallback).evaluateCaptured e)

variable {e : Envelope} {conditions : List Condition} {fallback : Option Value}

theorem evaluateCaptured_of_condition {before after : List Condition} {c : Condition}
    {captures : Captures} (hbefore : NoneHolds e before) (hc : c.evaluate e = .ok (some captures)) :
    (Rule.conditional (before ++ c :: after) fallback).evaluateCaptured e =
      (c.result.render captures e).map fun text => (.rendered text, captures) :=
  evaluateCaptured_of_ends (.decided (.condition hbefore hc))

theorem evaluateCaptured_of_noneHolds (h : NoneHolds e conditions) :
    (Rule.conditional conditions fallback).evaluateCaptured e =
      .ok (fallbackOutcome fallback, .none) :=
  evaluateCaptured_of_ends (.fallback h)

theorem conditional_eq_rendered_iff {text : String} {captures : Captures} :
    (Rule.conditional conditions fallback).evaluateCaptured e = .ok (.rendered text, captures) ↔
      ∃ before c after, conditions = before ++ c :: after ∧ NoneHolds e before ∧
        c.evaluate e = .ok (some captures) ∧ c.result.render captures e = .ok text := by
  constructor
  · intro h
    obtain ⟨t, hdecides, hrender⟩ := decides_of_rendered h
    cases hdecides with
    | condition hbefore hc => exact ⟨_, _, _, rfl, hbefore, hc, hrender⟩
  · rintro ⟨before, c, after, rfl, hbefore, hc, hrender⟩
    rw [evaluateCaptured_of_condition hbefore hc, hrender]
    rfl

theorem conditional_eq_error_iff {err : EvalError} :
    (Rule.conditional conditions fallback).evaluateCaptured e = .error err ↔
      ∃ before c after, conditions = before ++ c :: after ∧ NoneHolds e before ∧
        (c.evaluate e = .error err ∨ ∃ captures, c.evaluate e = .ok (some captures) ∧
          c.result.render captures e = .error err) := by
  rw [evaluateCaptured_eq_error_iff]
  constructor
  · intro h
    cases h with
    | condition hbefore hfield =>
        have herr := Condition.evaluate_eq_error_iff.mpr ⟨hfield, rfl⟩
        exact ⟨_, _, _, rfl, hbefore, .inl herr⟩
    | template hdecides hmisses =>
        have hrender := Template.render_eq_error_iff.mpr hmisses
        cases hdecides with
        | condition hbefore hc => exact ⟨_, _, _, rfl, hbefore, .inr ⟨_, hc, hrender⟩⟩
  · rintro ⟨before, c, after, rfl, hbefore, herr | ⟨captures, hc, hrender⟩⟩
    · obtain ⟨hfield, rfl⟩ := Condition.evaluate_eq_error_iff.mp herr
      exact .condition hbefore hfield
    · exact .template (.condition hbefore hc) (Template.render_eq_error_iff.mp hrender)

/-- Only the fallback gives an outcome that is not rendered. -/
theorem noneHolds_of_evaluateCaptured {outcome : Outcome} {captures : Captures}
    (h : (Rule.conditional conditions fallback).evaluateCaptured e = .ok (outcome, captures))
    (houtcome : ∀ text, outcome ≠ .rendered text) : NoneHolds e conditions := by
  cases outcome with
  | rendered text => exact absurd rfl (houtcome text)
  | literal v =>
      obtain ⟨_, hr, hnone⟩ := fallback_of_literal h
      cases hr
      exact hnone
  | noMatch =>
      obtain ⟨_, hr, hnone⟩ := fallback_of_noMatch h
      cases hr
      exact hnone

theorem conditional_eq_fallback_iff {outcome : Outcome} {captures : Captures}
    (houtcome : ∀ text, outcome ≠ .rendered text) :
    (Rule.conditional conditions fallback).evaluateCaptured e = .ok (outcome, captures) ↔
      fallbackOutcome fallback = outcome ∧ captures = .none ∧ NoneHolds e conditions := by
  constructor
  · intro h
    have hnone := noneHolds_of_evaluateCaptured h houtcome
    rw [evaluateCaptured_of_noneHolds hnone] at h
    cases h
    exact ⟨rfl, rfl, hnone⟩
  · rintro ⟨rfl, rfl, hnone⟩
    exact evaluateCaptured_of_noneHolds hnone

theorem fallbackOutcome_eq_noMatch_iff : fallbackOutcome fallback = .noMatch ↔ fallback = none := by
  cases fallback <;> simp [fallbackOutcome]

theorem fallbackOutcome_eq_literal_iff {v : Value} :
    fallbackOutcome fallback = .literal v ↔ fallback = some v := by
  cases fallback <;> simp [fallbackOutcome]

/-- Nothing behind the condition that decides counts. -/
theorem firstMatch_of_decides {before : List Condition} {c : Condition}
    (hbefore : NoneHolds e before) (hc : c.evaluate e ≠ .ok none)
    (after after' : List Condition) (fallback fallback' : Option Value) :
    firstMatch e fallback (before ++ c :: after) =
      firstMatch e fallback' (before ++ c :: after') := by
  rw [firstMatch_append hbefore, firstMatch_append hbefore, firstMatch, firstMatch]
  split
  · rfl
  · rename_i hnone
    exact absurd hnone hc
  · rfl

theorem firstMatch_append_eq_orElse (e : Envelope) (fallback : Option Value)
    (xs ys : List Condition) :
    firstMatch e fallback (xs ++ ys) =
      orElse (firstMatch e none xs) (firstMatch e fallback ys) := by
  -- The fallback of the first part is no match, so that only this goes on with the second.
  induction xs with
  | nil => rfl
  | cons c xs ih =>
      rw [List.cons_append, firstMatch, firstMatch]
      split
      · rfl
      · exact ih
      · split <;> rfl

/-- A rule with conditions is decided by the first of them that holds or cannot be evaluated, and by
its fallback if there is none; and a condition holds if the value of its field compares. -/
theorem first_match_decides (conditions : List Condition) (fallback : Option Value) (e : Envelope) :
    DecidedInTurn e conditions fallback ∧ ∀ c : Condition, c.Tested e := by
  refine ⟨?_, fun c => c.tested e⟩
  constructor
  case rendered => exact fun _ _ => conditional_eq_rendered_iff
  case error => exact fun _ => conditional_eq_error_iff
  case noMatch =>
    intro captures
    rw [conditional_eq_fallback_iff (by simp), fallbackOutcome_eq_noMatch_iff]
  case literal =>
    intro v captures
    rw [conditional_eq_fallback_iff (by simp), fallbackOutcome_eq_literal_iff]
  case rest =>
    rintro before c after rfl hbefore hc after' fallback'
    exact firstMatch_of_decides hbefore hc after after' fallback fallback'
  case append => exact fun more => firstMatch_append_eq_orElse e fallback conditions more

end Rule
end EnvelopeRules
