import EnvelopeRules.Proofs.Engine.Negative

/-!
# Captures out of range

How many captures a template gets is settled by what decides on its rule, not by the text that was
matched.  A template that refers beyond them fails whenever it is rendered, and one that does not
never fails for a capture.
-/

namespace EnvelopeRules

/-! ## Templates -/

namespace Template

/-- Whether a token refers to nothing that is missing when so many captures are available. -/
def Token.Within (available : Nat) (e : Envelope) : Token → Prop
  | .literal _ => True
  | .capture index => index < available
  | .field f => (e.get? f).isSome

/-- The leftmost token of a template that refers to something missing is a capture. -/
inductive Overreaches (t : Template) (available : Nat) (e : Envelope) : Nat → Prop
  | intro {before after : List Token} {index : Nat} : t.tokens = before ++ .capture index :: after →
      available ≤ index → (∀ k ∈ before, k.Within available e) → Overreaches t available e index

/-- A field that is missing stands on the left of every capture that is. -/
inductive Forestalls (t : Template) (available : Nat) (e : Envelope) (index : Nat) : Field → Prop
  | intro {before after : List Token} {f : Field} : t.tokens = before ++ .field f :: after →
      e.get? f = none → .capture index ∈ after → (∀ k ∈ before, k.Within available e) →
      Forestalls t available e index f

variable {t : Template} {c : Captures} {e : Envelope}

theorem Token.within_iff {k : Token} : k.Within c.size e ↔ ∀ err, ¬ k.Absent c e err := by
  constructor
  · intro h err habsent
    cases habsent with
    | capture hle => exact absurd h (Nat.not_lt.mpr hle)
    | field hnone => simp [Within, hnone] at h
  · intro h
    cases k with
    | literal text => trivial
    | capture index => exact Nat.lt_of_not_le fun hle => h _ (.capture hle)
    | field f => exact Option.isSome_iff_ne_none.mpr fun hnone => h _ (.field hnone)

theorem misses_capture_iff {index available : Nat} :
    t.Misses c e (.captureOutOfRange index available) ↔
      available = c.size ∧ t.Overreaches c.size e index := by
  constructor
  · rintro ⟨hsplit, hbefore, habsent⟩
    cases habsent with
    | capture hle =>
        exact ⟨rfl, .intro hsplit hle fun k hk => Token.within_iff.mpr (hbefore k hk)⟩
  · rintro ⟨rfl, hsplit, hle, hbefore⟩
    exact .token hsplit (fun k hk => Token.within_iff.mp (hbefore k hk)) (.capture hle)

theorem exists_misses_of_mem {k : Token} {err : EvalError} (hk : k ∈ t.tokens)
    (habsent : k.Absent c e err) : ∃ err', t.Misses c e err' := by
  cases hrender : t.render c e with
  | error err' => exact ⟨err', render_eq_error_iff.mp hrender⟩
  | ok text =>
      rw [render, renderTokens_eq_mapM, Result.map_eq_ok_iff] at hrender
      obtain ⟨texts, htexts, _⟩ := hrender
      obtain ⟨text, hok⟩ := Result.exists_mapM_eq_ok_iff.mp ⟨texts, htexts⟩ k hk
      cases hok.symm.trans (Token.render_eq_error_iff.mpr habsent)

/-- A reference beyond the captures fails, if no field that is missing fails before it. -/
theorem overreaches_or_forestalls {index : Nat} (hmem : .capture index ∈ t.tokens)
    (hle : c.size ≤ index) :
    (∃ n, t.render c e = .error (.captureOutOfRange n c.size) ∧ t.Overreaches c.size e n) ∨
      ∃ f, t.render c e = .error (.fieldNotFound f) ∧ t.Forestalls c.size e index f := by
  obtain ⟨err, hmisses⟩ := exists_misses_of_mem hmem (.capture (e := e) hle)
  have hrender := render_eq_error_iff.mpr hmisses
  obtain ⟨hsplit, hbefore, habsent⟩ := hmisses
  have hwithin := fun k hk => Token.within_iff.mpr (hbefore k hk)
  cases habsent with
  | capture hn => exact .inl ⟨_, hrender, .intro hsplit hn hwithin⟩
  | field hnone =>
      refine .inr ⟨_, hrender, .intro hsplit hnone ?_ hwithin⟩
      -- The capture is not among the tokens before the field, as all of these have a text.
      rw [hsplit, List.mem_append, List.mem_cons] at hmem
      rcases hmem with hmem | hmem | hmem
      · exact absurd (hwithin _ hmem) (Nat.not_lt.mpr hle)
      · cases hmem
      · exact hmem

theorem mem_fields_iff {f : Field} : f ∈ t.fields ↔ .field f ∈ t.tokens := by
  rw [fields, List.mem_filterMap]
  constructor
  · rintro ⟨k, hk, hf⟩
    cases k with
    | literal text => cases hf
    | capture index => cases hf
    | field g =>
        cases hf
        exact hk
  · intro h
    exact ⟨_, h, rfl⟩

/-- Only which of its fields are set counts for what a template misses. -/
theorem Overreaches.congr {e' : Envelope} {available index : Nat}
    (h : t.Overreaches available e index)
    (hfields : ∀ f ∈ t.fields, (e.get? f).isSome = (e'.get? f).isSome) :
    t.Overreaches available e' index := by
  obtain ⟨hsplit, hle, hbefore⟩ := h
  refine .intro hsplit hle fun k hk => ?_
  have hwithin := hbefore k hk
  cases k with
  | literal text => trivial
  | capture n => exact hwithin
  | field f =>
      have hmem : .field f ∈ t.tokens := by
        rw [hsplit]
        exact List.mem_append_left _ hk
      exact (hfields f (mem_fields_iff.mpr hmem)).symm.trans hwithin

end Template

theorem Captures.get_of_lt {c : Captures} {index : Nat} (h : index < c.size) :
    ∃ group, c.matched[index]? = some group ∧ c.get index = .ok (group.getD "") := by
  have hgroup : c.matched[index]? = some c.matched[index] := List.getElem?_eq_getElem h
  refine ⟨_, hgroup, ?_⟩
  rw [get, hgroup]

/-! ## Rules -/

namespace Rule

/-- What decides on a rule. -/
inductive Decider where
  | template (t : Template)
  | condition (c : Condition)
  | fallback

namespace Decider

/-- How many captures the templates get that are rendered because of it. -/
def available : Decider → Nat
  | .template _ => 0
  | .condition c => c.operator.captureCount
  | .fallback => 0

/-- The template that makes the outcome. -/
def result? : Decider → Option Template
  | .template t => some t
  | .condition c => some c.result
  | .fallback => none

end Decider

/-- What decides on a rule on an envelope, with the captures that come of it. -/
inductive DecidedBy (e : Envelope) : Rule → Decider → Captures → Prop
  | template (t : Template) : DecidedBy e (.template t) (.template t) .none
  | condition {before after : List Condition} {c : Condition} {fallback : Option Value}
      {captures : Captures} : NoneHolds e before → c.evaluate e = .ok (some captures) →
      DecidedBy e (.conditional (before ++ c :: after) fallback) (.condition c) captures
  | fallback {conditions : List Condition} {fallback : Option Value} : NoneHolds e conditions →
      DecidedBy e (.conditional conditions fallback) .fallback .none

variable {r : Rule} {e : Envelope} {d : Decider} {captures : Captures}

theorem DecidedBy.size (h : DecidedBy e r d captures) : captures.size = d.available := by
  cases h with
  | template t => rfl
  | condition _ hc =>
      rw [Condition.evaluate] at hc
      split at hc
      · cases hc
      · exact Operator.size_captures (Except.ok.inj hc)
  | fallback _ => rfl

theorem decides_iff {t : Template} :
    Decides e r t captures ↔ ∃ d, DecidedBy e r d captures ∧ d.result? = some t := by
  constructor
  · intro h
    cases h with
    | template t => exact ⟨_, .template t, rfl⟩
    | condition hbefore hc => exact ⟨_, .condition hbefore hc, rfl⟩
  · rintro ⟨d, hd, ht⟩
    cases hd with
    | template t =>
        cases ht
        exact .template t
    | condition hbefore hc =>
        cases ht
        exact .condition hbefore hc
    | fallback _ => cases ht

theorem decidedBy_of_evaluateCaptured {outcome : Outcome}
    (h : r.evaluateCaptured e = .ok (outcome, captures)) : ∃ d, DecidedBy e r d captures := by
  cases outcome with
  | rendered text =>
      obtain ⟨t, hdecides, _⟩ := decides_of_rendered h
      obtain ⟨d, hd, _⟩ := decides_iff.mp hdecides
      exact ⟨d, hd⟩
  | literal v =>
      obtain ⟨conditions, rfl, hnone⟩ := fallback_of_literal h
      cases (evaluateCaptured_of_ends (.fallback hnone)).symm.trans h
      exact ⟨_, .fallback hnone⟩
  | noMatch =>
      obtain ⟨conditions, rfl, hnone⟩ := fallback_of_noMatch h
      cases (evaluateCaptured_of_ends (.fallback hnone)).symm.trans h
      exact ⟨_, .fallback hnone⟩

theorem evaluate_eq_captureOutOfRange_iff {index available : Nat} :
    r.evaluate e = .error (.captureOutOfRange index available) ↔
      ∃ d captures t, DecidedBy e r d captures ∧ d.result? = some t ∧ available = d.available ∧
        t.Overreaches d.available e index := by
  rw [evaluate_eq_error_iff]
  constructor
  · intro h
    generalize herr : EvalError.captureOutOfRange index available = err at h
    cases h with
    | condition _ _ => cases herr
    | @template _ t captures _ hdecides hmisses =>
        subst herr
        obtain ⟨d, hd, ht⟩ := decides_iff.mp hdecides
        obtain ⟨havailable, hover⟩ := Template.misses_capture_iff.mp hmisses
        rw [hd.size] at havailable hover
        exact ⟨d, captures, t, hd, ht, havailable, hover⟩
  · rintro ⟨d, captures, t, hd, ht, rfl, hover⟩
    refine .template (decides_iff.mpr ⟨d, hd, ht⟩) (Template.misses_capture_iff.mpr ?_)
    rw [hd.size]
    exact ⟨rfl, hover⟩

end Rule

/-! ## Lookup rules -/

namespace LookupRule

/-- The templates that are rendered for a lookup rule, each with what decided on the rule and the
captures from there.  The key is rendered last, and only if the outcome names a store. -/
inductive Renders (r : LookupRule) (e : Envelope) : Rule.Decider → Template → Captures → Prop
  | result {d : Rule.Decider} {t : Template} {captures : Captures} :
      Rule.DecidedBy e r.rule d captures → d.result? = some t → Renders r e d t captures
  | key {d : Rule.Decider} {t : Template} {captures : Captures} {outcome : Outcome} {id : String} :
      Rule.DecidedBy e r.rule d captures → r.rule.evaluateCaptured e = .ok (outcome, captures) →
      outcome.storeId? = some id → r.key = some t → Renders r e d t captures

variable {r : LookupRule} {e : Envelope} {d : Rule.Decider} {t : Template} {captures : Captures}

theorem Renders.size (h : r.Renders e d t captures) : captures.size = d.available := by
  cases h with
  | result hd _ => exact hd.size
  | key hd _ _ _ => exact hd.size

theorem Renders.unasked (h : r.Renders e d t captures) {err : EvalError}
    (hmisses : t.Misses captures e err) : r.Unasked e err := by
  cases h with
  | result hd ht => exact .rule (.template (Rule.decides_iff.mpr ⟨d, hd, ht⟩) hmisses)
  | key _ houtcome hid ht => exact .key houtcome hid ht hmisses

theorem unasked_capture_iff {index available : Nat} :
    r.Unasked e (.captureOutOfRange index available) ↔
      ∃ d t captures, r.Renders e d t captures ∧ available = d.available ∧
        t.Overreaches d.available e index := by
  constructor
  · intro h
    generalize herr : EvalError.captureOutOfRange index available = err at h
    cases h with
    | rule hfails =>
        subst herr
        obtain ⟨d, captures, t, hd, ht, havailable, hover⟩ :=
          Rule.evaluate_eq_captureOutOfRange_iff.mp (Rule.evaluate_eq_error_iff.mpr hfails)
        exact ⟨d, t, captures, .result hd ht, havailable, hover⟩
    | literal _ _ => cases herr
    | @key _ captures _ t _ houtcome hid ht hmisses =>
        subst herr
        obtain ⟨d, hd⟩ := Rule.decidedBy_of_evaluateCaptured houtcome
        obtain ⟨havailable, hover⟩ := Template.misses_capture_iff.mp hmisses
        rw [hd.size] at havailable hover
        exact ⟨d, t, captures, .key hd houtcome hid ht, havailable, hover⟩
  · rintro ⟨d, t, captures, hrenders, rfl, hover⟩
    apply hrenders.unasked
    rw [Template.misses_capture_iff, hrenders.size]
    exact ⟨rfl, hover⟩

theorem evaluate_eq_captureOutOfRange_iff {st : StoreState} {timeout index available : Nat} :
    (st.evaluate timeout r e).1 = .error (.captureOutOfRange index available) ↔
      r.Unasked e (.captureOutOfRange index available) := by
  rw [StoreState.evaluate_eq_error_iff]
  constructor
  · intro h
    generalize herr : EvalError.captureOutOfRange index available = err at h
    cases h with
    | unasked hunasked =>
        subst herr
        exact hunasked
    | unanswered _ hunanswered => cases hunanswered <;> cases herr
  · exact .unasked

/-- What a lookup rule alone settles about captures that are out of range. -/
structure SettlesCaptures (r : LookupRule) : Prop where
  groups : ∀ e d t captures, r.Renders e d t captures → captures.size = d.available ∧
    ∀ index < d.available, ∃ group, captures.matched[index]? = some group ∧
      captures.get index = .ok (group.getD "")
  render : ∀ e d t captures, r.Renders e d t captures → ∀ index available,
    t.render captures e = .error (.captureOutOfRange index available) ↔
      available = d.available ∧ t.Overreaches d.available e index
  certain : ∀ e d t captures, r.Renders e d t captures → ∀ index, .capture index ∈ t.tokens →
    d.available ≤ index →
      (∃ n, t.render captures e = .error (.captureOutOfRange n d.available) ∧
        t.Overreaches d.available e n) ∨
      ∃ f, t.render captures e = .error (.fieldNotFound f) ∧ t.Forestalls d.available e index f
  same : ∀ e e' d t captures captures', r.Renders e d t captures → r.Renders e' d t captures' →
    (∀ f ∈ t.fields, (e.get? f).isSome = (e'.get? f).isSome) → ∀ index available,
      t.render captures e = .error (.captureOutOfRange index available) ↔
        t.render captures' e' = .error (.captureOutOfRange index available)
  evaluate : ∀ e index available,
    r.rule.evaluate e = .error (.captureOutOfRange index available) ↔
      ∃ d captures t, Rule.DecidedBy e r.rule d captures ∧ d.result? = some t ∧
        available = d.available ∧ t.Overreaches d.available e index
  lookup : ∀ (st : StoreState) timeout e index available,
    (st.evaluate timeout r e).1 = .error (.captureOutOfRange index available) ↔
      ∃ d t captures, r.Renders e d t captures ∧ available = d.available ∧
        t.Overreaches d.available e index
  noMatch : ∀ (st : StoreState) timeout e key, r.rule.evaluate e = .ok .noMatch →
    st.evaluate timeout ⟨r.rule, key⟩ e = (.ok .no, st)

theorem Renders.render_eq_error_iff (h : r.Renders e d t captures) {index available : Nat} :
    t.render captures e = .error (.captureOutOfRange index available) ↔
      available = d.available ∧ t.Overreaches d.available e index := by
  rw [Template.render_eq_error_iff, Template.misses_capture_iff, h.size]

/-- A template fails for a capture that is out of range only if it refers beyond what is available
to it, which the rule settles; and if it does refer so far, then it fails on every envelope. -/
theorem settlesCaptures (r : LookupRule) : r.SettlesCaptures := by
  constructor
  case groups =>
    intro e d t captures h
    refine ⟨h.size, fun index hlt => Captures.get_of_lt ?_⟩
    rwa [h.size]
  case render => exact fun e d t captures h index available => h.render_eq_error_iff
  case certain =>
    intro e d t captures h index hmem hle
    rw [← h.size] at hle ⊢
    exact Template.overreaches_or_forestalls hmem hle
  case same =>
    intro e e' d t captures captures' h h' hfields index available
    rw [h.render_eq_error_iff, h'.render_eq_error_iff]
    refine and_congr_right fun _ => ⟨fun hover => hover.congr hfields, fun hover => ?_⟩
    exact hover.congr fun f hf => (hfields f hf).symm
  case evaluate => exact fun e index available => Rule.evaluate_eq_captureOutOfRange_iff
  case lookup =>
    intro st timeout e index available
    rw [evaluate_eq_captureOutOfRange_iff, unasked_capture_iff]
  case noMatch =>
    intro st timeout e key h
    exact StoreState.evaluate_of_noMatch h

end LookupRule
end EnvelopeRules
