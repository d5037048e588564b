import EnvelopeRules.Proofs.Template.Rendering
import EnvelopeRules.Rule

/-!
# What decides on a rule

Either one template decides on the outcome of a rule, or its fallback, or a condition cannot be
evaluated because its field has no value.
-/

namespace EnvelopeRules

theorem Condition.evaluate_eq_error_iff {c : Condition} {e : Envelope} {err : EvalError} :
    c.evaluate e = .error err ↔ e.get? c.field = none ∧ err = .fieldNotFound c.field := by
  rw [Condition.evaluate, Envelope.text?]
  cases e.get? c.field <;> simp [eq_comm]

namespace Rule

/-- Whether some conditions can be evaluated and do not hold. -/
def NoneHolds (e : Envelope) (cs : List Condition) : Prop := ∀ c ∈ cs, c.evaluate e = .ok none

/-- The template that decides, with its captures: the only one of the rule, or the one of the first
condition that holds. -/
inductive Decides (e : Envelope) : Rule → Template → Captures → Prop
  | template (t : Template) : Decides e (.template t) t .none
  | condition {before after : List Condition} {c : Condition} {fallback : Option Value}
      {captures : Captures} : NoneHolds e before → c.evaluate e = .ok (some captures) →
      Decides e (.conditional (before ++ c :: after) fallback) c.result captures

/-- How an evaluation ends. -/
inductive Ends (e : Envelope) : Rule → Eval (Outcome × Captures) → Prop
  | unread {before after : List Condition} {c : Condition} {fallback : Option Value} :
      NoneHolds e before → e.get? c.field = none →
      Ends e (.conditional (before ++ c :: after) fallback) (.error (.fieldNotFound c.field))
  | decided {r : Rule} {t : Template} {captures : Captures} : Decides e r t captures →
      Ends e r ((t.render captures e).map fun text => (.rendered text, captures))
  | fallback {conditions : List Condition} {fallback : Option Value} : NoneHolds e conditions →
      Ends e (.conditional conditions fallback) (.ok (fallbackOutcome fallback, .none))

variable {e : Envelope}

theorem noneHolds_cons {c : Condition} {cs : List Condition} (hc : c.evaluate e = .ok none)
    (hcs : NoneHolds e cs) : NoneHolds e (c :: cs) :=
  List.forall_mem_cons.mpr ⟨hc, hcs⟩

/-- A condition that does not hold in front of the others changes nothing. -/
theorem Ends.cons {c : Condition} {cs : List Condition} {fallback : Option Value}
    {result : Eval (Outcome × Captures)} (hc : c.evaluate e = .ok none)
    (h : Ends e (.conditional cs fallback) result) :
    Ends e (.conditional (c :: cs) fallback) result := by
  cases h with
  | unread hbefore hd =>
      rw [← List.cons_append]
      exact .unread (noneHolds_cons hc hbefore) hd
  | decided hdecides =>
      cases hdecides with
      | condition hbefore hd => exact .decided (.condition (noneHolds_cons hc hbefore) hd)
  | fallback hcs => exact .fallback (noneHolds_cons hc hcs)

theorem ends_firstMatch (e : Envelope) (fallback : Option Value) (cs : List Condition) :
    Ends e (.conditional cs fallback) (firstMatch e fallback cs) := by
  induction cs with
  | nil => exact .fallback (by simp [NoneHolds])
  | cons c cs ih =>
      have hnone : NoneHolds e [] := by simp [NoneHolds]
      rw [firstMatch]
      split
      · rename_i err herr
        obtain ⟨hfield, rfl⟩ := Condition.evaluate_eq_error_iff.mp herr
        exact .unread hnone hfield
      · rename_i hc
        exact ih.cons hc
      · rename_i captures hc
        have hdecides : Decides e (.conditional (c :: cs) fallback) c.result captures :=
          .condition hnone hc
        have hends := Ends.decided hdecides
        cases ht : c.result.render captures e <;> rw [ht] at hends <;> exact hends

theorem ends_evaluateCaptured (r : Rule) (e : Envelope) : Ends e r (r.evaluateCaptured e) := by
  cases r with
  | template t =>
      have hends := Ends.decided (Decides.template (e := e) t)
      rw [evaluateCaptured]
      cases ht : t.render .none e <;> rw [ht] at hends <;> exact hends
  | conditional cs fallback => exact ends_firstMatch e fallback cs

/-- Conditions that do not hold are passed over. -/
theorem firstMatch_append {before : List Condition} (h : NoneHolds e before) (cs : List Condition)
    (fallback : Option Value) :
    firstMatch e fallback (before ++ cs) = firstMatch e fallback cs := by
  induction before with
  | nil => rfl
  | cons c before ih =>
      obtain ⟨hc, hbefore⟩ := List.forall_mem_cons.mp h
      rw [List.cons_append, firstMatch, hc]
      exact ih hbefore

theorem evaluateCaptured_of_ends {r : Rule} {result : Eval (Outcome × Captures)}
    (h : Ends e r result) : r.evaluateCaptured e = result := by
  cases h with
  | unread hbefore hfield =>
      have herr := Condition.evaluate_eq_error_iff.mpr ⟨hfield, rfl⟩
      rw [evaluateCaptured, firstMatch_append hbefore, firstMatch, herr]
  | @decided _ t captures hdecides =>
      cases hdecides with
      | template t =>
          rw [evaluateCaptured]
          cases t.render .none e <;> rfl
      | @condition before after c fallback captures hbefore hc =>
          rw [evaluateCaptured, firstMatch_append hbefore, firstMatch, hc]
          dsimp only
          cases c.result.render captures e <;> rfl
  | @fallback conditions fallback hnone =>
      have hall := firstMatch_append hnone [] fallback
      rw [List.append_nil] at hall
      rw [evaluateCaptured, hall, firstMatch]

/-- A rule is evaluated in just one way. -/
theorem evaluateCaptured_eq_iff {r : Rule} {result : Eval (Outcome × Captures)} :
    r.evaluateCaptured e = result ↔ Ends e r result := by
  constructor
  · rintro rfl
    exact ends_evaluateCaptured r e
  · exact evaluateCaptured_of_ends

theorem Decides.mem_templates {r : Rule} {t : Template} {captures : Captures}
    (h : Decides e r t captures) : t ∈ r.templates := by
  cases h with
  | template t => exact List.mem_singleton_self t
  | condition _ _ => simp [templates]

/-- At most one condition is the first that holds. -/
theorem eq_of_first {before after before' after' : List Condition} {c c' : Condition}
    {captures captures' : Captures} (hbefore : NoneHolds e before) (hbefore' : NoneHolds e before')
    (hc : c.evaluate e = .ok (some captures)) (hc' : c'.evaluate e = .ok (some captures'))
    (hsplit : before ++ c :: after = before' ++ c' :: after') : c = c' := by
  -- A condition that holds cannot stand among those before the other one.
  induction before generalizing before' with
  | nil =>
      cases before' with
      | nil => exact (List.cons.inj hsplit).1
      | cons b rest =>
          obtain ⟨rfl, _⟩ := List.cons.inj hsplit
          cases (hbefore' c List.mem_cons_self).symm.trans hc
  | cons b rest ih =>
      cases before' with
      | nil =>
          obtain ⟨rfl, _⟩ := List.cons.inj hsplit
          cases (hbefore b List.mem_cons_self).symm.trans hc'
      | cons b' rest' =>
          exact ih (fun d hd => hbefore d (List.mem_cons_of_mem _ hd))
            (fun d hd => hbefore' d (List.mem_cons_of_mem _ hd)) (List.cons.inj hsplit).2

theorem Decides.unique {r : Rule} {t t' : Template} {captures captures' : Captures}
    (h : Decides e r t captures) (h' : Decides e r t' captures') :
    t = t' ∧ captures = captures' := by
  cases h with
  | template t =>
      cases h'
      exact ⟨rfl, rfl⟩
  | condition hbefore hc =>
      generalize hr : Rule.conditional _ _ = r at h'
      cases h' with
      | template t => cases hr
      | condition hbefore' hc' =>
          injection hr with hsplit _
          obtain rfl := eq_of_first hbefore hbefore' hc hc' hsplit
          cases hc.symm.trans hc'
          exact ⟨rfl, rfl⟩

theorem Decides.not_noneHolds {conditions : List Condition} {fallback : Option Value} {t : Template}
    {captures : Captures} (h : Decides e (.conditional conditions fallback) t captures) :
    ¬ NoneHolds e conditions := by
  cases h with
  | condition _ hc =>
      intro hnone
      cases (hnone _ (by simp)).symm.trans hc

/-! ## Outcomes -/

theorem decides_of_rendered {r : Rule} {text : String} {captures : Captures}
    (h : r.evaluateCaptured e = .ok (.rendered text, captures)) :
    ∃ t, Decides e r t captures ∧ t.render captures e = .ok text := by
  have hends := ends_evaluateCaptured r e
  rw [h] at hends
  generalize hresult : (Except.ok (Outcome.rendered text, captures) : Eval _) = result at hends
  cases hends with
  | unread _ _ => cases hresult
  | decided hdecides =>
      obtain ⟨text', ht, he⟩ := Result.map_eq_ok_iff.mp hresult.symm
      cases he
      exact ⟨_, hdecides, ht⟩
  | @fallback _ fallback _ => cases fallback <;> cases hresult

theorem fallback_of_literal {r : Rule} {v : Value} {captures : Captures}
    (h : r.evaluateCaptured e = .ok (.literal v, captures)) :
    ∃ conditions, r = .conditional conditions (some v) ∧ NoneHolds e conditions := by
  have hends := ends_evaluateCaptured r e
  rw [h] at hends
  generalize hresult : (Except.ok (Outcome.literal v, captures) : Eval _) = result at hends
  cases hends with
  | unread _ _ => cases hresult
  | decided _ =>
      obtain ⟨text, _, he⟩ := Result.map_eq_ok_iff.mp hresult.symm
      cases he
  | @fallback conditions fallback hnone =>
      cases fallback with
      | none => cases hresult
      | some v' =>
          cases hresult
          exact ⟨conditions, rfl, hnone⟩

theorem fallback_of_noMatch {r : Rule} {captures : Captures}
    (h : r.evaluateCaptured e = .ok (.noMatch, captures)) :
    ∃ conditions, r = .conditional conditions none ∧ NoneHolds e conditions := by
  have hends := evaluateCaptured_eq_iff.mp h
  generalize hresult : (Except.ok (Outcome.noMatch, captures) : Eval _) = result at hends
  cases hends with
  | unread _ _ => cases hresult
  | decided _ =>
      obtain ⟨text, _, he⟩ := Result.map_eq_ok_iff.mp hresult.symm
      cases he
  | @fallback conditions fallback hnone =>
      cases fallback with
      | none => exact ⟨conditions, rfl, hnone⟩
      | some v => cases hresult

/-! ## Failures -/

/-- The fields of the conditions of a rule. -/
def conditionFields : Rule → List Field
  | .template _ => []
  | .conditional conditions _ => conditions.map Condition.field

/-- Why a rule cannot be evaluated, or its key not rendered: a condition or a template refers to
something that is not there. -/
inductive Lacks (r : Rule) (key : Option Template) (e : Envelope) : EvalError → Prop
  | condition {f : Field} : f ∈ r.conditionFields → e.get? f = none →
      Lacks r key e (.fieldNotFound f)
  | template {err : EvalError} : Template.Lacks (r.templates ++ key.toList) e err →
      Lacks r key e err

theorem Lacks.ne_ruleNotFound {r : Rule} {key : Option Template} {err : EvalError}
    (h : r.Lacks key e err) (name : String) : err ≠ .ruleNotFound name := by
  rcases h with _ | hlacks
  · simp
  · cases hlacks <;> simp

theorem lacks_of_evaluateCaptured {r : Rule} {err : EvalError} (key : Option Template)
    (h : r.evaluateCaptured e = .error err) : r.Lacks key e err := by
  have hends := ends_evaluateCaptured r e
  rw [h] at hends
  generalize hresult : (Except.error err : Eval (Outcome × Captures)) = result at hends
  cases hends with
  | unread _ hfield =>
      cases hresult
      exact .condition (by simp [conditionFields]) hfield
  | decided hdecides =>
      exact .template (Template.lacks_of_render (List.mem_append_left _ hdecides.mem_templates)
        (Result.map_eq_error_iff.mp hresult.symm))
  | fallback _ => cases hresult

theorem lacks_of_evaluate {r : Rule} {err : EvalError} (h : r.evaluate e = .error err) :
    r.Lacks none e err :=
  lacks_of_evaluateCaptured none (Result.map_eq_error_iff.mp h)

end Rule
end EnvelopeRules
