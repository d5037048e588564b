import EnvelopeRules.Lookup
import EnvelopeRules.Proofs.Rule.Deciding
import EnvelopeRules.Proofs.Template.Substitution

/-!
# What a lookup rule asks

A lookup rule asks one store one thing, asks nothing because no condition holds, or fails for a
reason that its conditions, templates and fallback show.
-/

namespace EnvelopeRules

/-! ## Rules without an outcome -/

namespace Template

/-- The first token of a template that has no text, and why. -/
inductive Misses (t : Template) (c : Captures) (e : Envelope) : EvalError → Prop
  | token {before after : List Token} {k : Token} {err : EvalError} :
      t.tokens = before ++ k :: after → (∀ k' ∈ before, ∀ err', ¬ k'.Absent c e err') →
      k.Absent c e err → Misses t c e err

theorem render_eq_error_iff {t : Template} {c : Captures} {e : Envelope} {err : EvalError} :
    t.render c e = .error err ↔ t.Misses c e err := by
  rw [render, renderTokens_eq_mapM, Result.map_eq_error_iff, Result.mapM_eq_error_iff]
  constructor
  · rintro ⟨before, k, after, texts, hsplit, hbefore, hk⟩
    refine .token hsplit (fun k' hk' err' habsent => ?_) (Token.render_eq_error_iff.mp hk)
    obtain ⟨text, hok⟩ := Result.exists_mapM_eq_ok_iff.mp ⟨texts, hbefore⟩ k' hk'
    cases hok.symm.trans (Token.render_eq_error_iff.mpr habsent)
  · rintro @⟨before, after, k, _, hsplit, hbefore, habsent⟩
    have hok : ∃ texts, before.mapM (Token.render c e) = .ok texts := by
      refine Result.exists_mapM_eq_ok_iff.mpr fun k' hk' => ?_
      cases hrender : k'.render c e with
      | ok text => exact ⟨text, rfl⟩
      | error err' => exact absurd (Token.render_eq_error_iff.mp hrender) (hbefore k' hk' err')
    obtain ⟨texts, htexts⟩ := hok
    exact ⟨_, _, _, texts, hsplit, htexts, Token.render_eq_error_iff.mpr habsent⟩

end Template

namespace Rule

/-- Why a rule has no outcome: the field of a condition is not set and no condition before it holds,
or the template that decides misses something. -/
inductive Fails (e : Envelope) : Rule → EvalError → Prop
  | condition {before after : List Condition} {c : Condition} {fallback : Option Value} :
      NoneHolds e before → e.get? c.field = none →
      Fails e (.conditional (before ++ c :: after) fallback) (.fieldNotFound c.field)
  | template {r : Rule} {t : Template} {captures : Captures} {err : EvalError} :
      Decides e r t captures → t.Misses captures e err → Fails e r err

variable {r : Rule} {e : Envelope}

theorem evaluateCaptured_eq_error_iff {err : EvalError} :
    r.evaluateCaptured e = .error err ↔ Fails e r err := by
  constructor
  · intro h
    have hends := evaluateCaptured_eq_iff.mp h
    generalize hresult : (Except.error err : Eval (Outcome × Captures)) = result at hends
    cases hends with
    | unread hbefore hfield =>
        cases hresult
        exact .condition hbefore hfield
    | decided hdecides =>
        have hrender := Result.map_eq_error_iff.mp hresult.symm
        exact .template hdecides (Template.render_eq_error_iff.mp hrender)
    | fallback _ => cases hresult
  · rintro (⟨hbefore, hfield⟩ | ⟨hdecides, hmisses⟩)
    · exact evaluateCaptured_of_ends (.unread hbefore hfield)
    · rw [evaluateCaptured_of_ends (.decided hdecides), Template.render_eq_error_iff.mpr hmisses]
      rfl

theorem evaluate_eq_error_iff {err : EvalError} : r.evaluate e = .error err ↔ Fails e r err := by
  rw [evaluate, Result.map_eq_error_iff, evaluateCaptured_eq_error_iff]

theorem evaluate_eq_ok_iff {outcome : Outcome} :
    r.evaluate e = .ok outcome ↔ ∃ captures, r.evaluateCaptured e = .ok (outcome, captures) := by
  rw [evaluate, Result.map_eq_ok_iff]
  constructor
  · rintro ⟨⟨_, captures⟩, h, rfl⟩
    exact ⟨captures, h⟩
  · rintro ⟨captures, h⟩
    exact ⟨_, h, rfl⟩

theorem evaluate_of_noneHolds {conditions : List Condition} (h : NoneHolds e conditions)
    (fallback : Option Value) :
    (Rule.conditional conditions fallback).evaluate e = .ok (fallbackOutcome fallback) :=
  evaluate_eq_ok_iff.mpr ⟨.none, evaluateCaptured_of_ends (.fallback h)⟩

end Rule

/-! ## Requests -/

/-- The identifier of a store that an outcome may be. -/
def Outcome.storeId? : Outcome → Option String
  | .rendered id => some id
  | .literal v => v.text?
  | .noMatch => none

namespace LookupRule

/-- The query that a key makes with some captures. -/
inductive Queries (key : Option Template) (e : Envelope) (captures : Captures) : Query → Prop
  | any : key = none → Queries key e captures .any
  | key {t : Template} {text : String} : key = some t → t.render captures e = .ok text →
      Queries key e captures (.key text)

/-- What a lookup rule asks: its outcome names the store, and its key is rendered with the captures
of that outcome. -/
inductive Asks (r : LookupRule) (e : Envelope) : String → Query → Prop
  | intro {outcome : Outcome} {captures : Captures} {id : String} {q : Query} :
      r.rule.evaluateCaptured e = .ok (outcome, captures) → outcome.storeId? = some id →
      Queries r.key e captures q → Asks r e id q

/-- Why a lookup rule that has to ask does not: its rule has no outcome, the outcome is the
identifier of no store, or the key misses something. -/
inductive Unasked (r : LookupRule) (e : Envelope) : EvalError → Prop
  | rule {err : EvalError} : Rule.Fails e r.rule err → Unasked r e err
  | literal {v : Value} : r.rule.evaluate e = .ok (.literal v) → v.text? = none →
      Unasked r e (.storeNotFound v.shown)
  | key {outcome : Outcome} {captures : Captures} {id : String} {t : Template} {err : EvalError} :
      r.rule.evaluateCaptured e = .ok (outcome, captures) → outcome.storeId? = some id →
      r.key = some t → t.Misses captures e err → Unasked r e err

variable {r : LookupRule} {e : Envelope}

theorem request_of_storeId {outcome : Outcome} {captures : Captures} {id : String}
    (h : r.rule.evaluateCaptured e = .ok (outcome, captures)) (hid : outcome.storeId? = some id) :
    r.request e = request.ask r e id captures := by
  rw [request, h]
  cases outcome with
  | rendered text =>
      cases hid
      rfl
  | literal v =>
      cases v with
      | text s =>
          cases hid
          rfl
      | integer n => cases hid
      | bool b => cases hid
  | noMatch => cases hid

theorem ask_eq_some_iff {id id' : String} {captures : Captures} {q : Query} :
    request.ask r e id captures = .ok (some (id', q)) ↔ id' = id ∧ Queries r.key e captures q := by
  rw [request.ask]
  cases hkey : r.key with
  | none =>
      constructor
      · intro h
        cases h
        exact ⟨rfl, .any rfl⟩
      · rintro ⟨rfl, hq⟩
        cases hq with
        | any _ => rfl
        | key ht _ => cases ht
  | some t =>
      dsimp only
      constructor
      · intro h
        cases hrender : t.render captures e with
        | error err =>
            rw [hrender] at h
            cases h
        | ok text =>
            rw [hrender] at h
            cases h
            exact ⟨rfl, .key rfl hrender⟩
      · rintro ⟨rfl, hq⟩
        cases hq with
        | any ht => cases ht
        | key ht htext =>
            cases ht
            rw [htext]

theorem ask_ne_none {id : String} {captures : Captures} :
    request.ask r e id captures ≠ .ok none := by
  rw [request.ask]
  split
  · simp
  · split <;> simp

theorem ask_eq_error_iff {id : String} {captures : Captures} {err : EvalError} :
    request.ask r e id captures = .error err ↔ ∃ t, r.key = some t ∧ t.Misses captures e err := by
  rw [request.ask]
  cases hkey : r.key with
  | none => simp
  | some t =>
      simp only [Option.some.injEq, exists_eq_left', ← Template.render_eq_error_iff]
      cases t.render captures e <;> simp

theorem storeId?_cases (outcome : Outcome) :
    (∃ id, outcome.storeId? = some id) ∨ outcome = .noMatch ∨
      ∃ v, outcome = .literal v ∧ v.text? = none := by
  cases outcome with
  | rendered text => exact .inl ⟨text, rfl⟩
  | literal v =>
      cases hv : v.text? with
      | none => exact .inr (.inr ⟨v, rfl, hv⟩)
      | some id => exact .inl ⟨id, hv⟩
  | noMatch => exact .inr (.inl rfl)

theorem request_of_noMatch {captures : Captures}
    (h : r.rule.evaluateCaptured e = .ok (.noMatch, captures)) : r.request e = .ok none := by
  rw [request, h]

theorem request_of_literal {captures : Captures} {v : Value}
    (h : r.rule.evaluateCaptured e = .ok (.literal v, captures)) (hv : v.text? = none) :
    r.request e = .error (.storeNotFound v.shown) := by
  rw [request, h]
  cases v with
  | text s => cases hv
  | integer n => rfl
  | bool b => rfl

theorem request_eq_error_of_rule {err : EvalError} (h : r.rule.evaluateCaptured e = .error err) :
    r.request e = .error err := by
  rw [request, h]

/-- How the request of a lookup rule comes out, by the outcome of its rule. -/
inductive Requests (r : LookupRule) (e : Envelope) : Eval (Option (String × Query)) → Prop
  | asks {id : String} {q : Query} : r.Asks e id q → Requests r e (.ok (some (id, q)))
  | noMatch : r.rule.evaluate e = .ok .noMatch → Requests r e (.ok none)
  | unasked {err : EvalError} : r.Unasked e err → Requests r e (.error err)

theorem requests_request (r : LookupRule) (e : Envelope) : r.Requests e (r.request e) := by
  cases h : r.rule.evaluateCaptured e with
  | error err =>
      rw [request_eq_error_of_rule h]
      exact .unasked (.rule (Rule.evaluateCaptured_eq_error_iff.mp h))
  | ok result =>
      obtain ⟨outcome, captures⟩ := result
      rcases storeId?_cases outcome with ⟨id, hid⟩ | rfl | ⟨v, rfl, hv⟩
      · rw [request_of_storeId h hid]
        cases hask : request.ask r e id captures with
        | error err =>
            obtain ⟨t, ht, hmisses⟩ := ask_eq_error_iff.mp hask
            exact .unasked (.key h hid ht hmisses)
        | ok asked =>
            cases asked with
            | none => exact absurd hask ask_ne_none
            | some idq =>
                obtain ⟨rfl, hq⟩ := ask_eq_some_iff.mp hask
                exact .asks (.intro h hid hq)
      · rw [request_of_noMatch h]
        exact .noMatch (Rule.evaluate_eq_ok_iff.mpr ⟨captures, h⟩)
      · rw [request_of_literal h hv]
        exact .unasked (.literal (Rule.evaluate_eq_ok_iff.mpr ⟨captures, h⟩) hv)

theorem request_eq_iff {result : Eval (Option (String × Query))} :
    r.request e = result ↔ r.Requests e result := by
  constructor
  · rintro rfl
    exact requests_request r e
  · intro h
    cases h with
    | asks hasks =>
        obtain ⟨h, hid, hq⟩ := hasks
        rw [request_of_storeId h hid]
        exact ask_eq_some_iff.mpr ⟨rfl, hq⟩
    | noMatch h =>
        obtain ⟨captures, h⟩ := Rule.evaluate_eq_ok_iff.mp h
        exact request_of_noMatch h
    | unasked hunasked =>
        cases hunasked with
        | rule h => exact request_eq_error_of_rule (Rule.evaluateCaptured_eq_error_iff.mpr h)
        | literal h hv =>
            obtain ⟨captures, h⟩ := Rule.evaluate_eq_ok_iff.mp h
            exact request_of_literal h hv
        | key h hid ht hmisses =>
            rw [request_of_storeId h hid]
            exact ask_eq_error_iff.mpr ⟨_, ht, hmisses⟩

end LookupRule
end EnvelopeRules
