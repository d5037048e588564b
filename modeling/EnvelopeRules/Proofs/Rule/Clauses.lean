import EnvelopeRules.Proofs.Result
import EnvelopeRules.Rule.Clauses

/-!
# Rules written as clauses

Clauses make a rule if every one but the last states a condition and the last one holds a fallback
and nothing else.  The rule has what the clauses say and no more, so that the clauses can be written
down again from it.  Otherwise the first clause that does not fit is reported.
-/

namespace EnvelopeRules

/-! ## Literals -/

/-- The value as it is written. -/
def Value.literal : Value → Toml.Value
  | .text s => .text s
  | .integer n => .integer n
  | .bool b => .boolean b

theorem Value.ofLiteral_literal (v : Value) : ofLiteral v.literal = .ok v := by
  cases v <;> rfl

theorem Value.ofLiteral_of_ne {w : Toml.Value} (h : ∀ v : Value, w ≠ v.literal) :
    ofLiteral w = .error (.invalidRule (.unsupportedLiteral w)) := by
  cases w with
  | text s => exact absurd rfl (h (.text s))
  | integer n => exact absurd rfl (h (.integer n))
  | boolean b => exact absurd rfl (h (.bool b))
  | float x => rfl
  | datetime s => rfl
  | array items => rfl
  | table entries => rfl

theorem Template.source_of_parse {source : String} {t : Template} (h : parse source = .ok t) :
    t.source = source := by
  simp only [parse] at h
  split at h
  · cases h
  · split at h
    · cases h
      rfl
    · cases h

namespace Clause

/-! ## One clause -/

def operands (c : Clause) : List String :=
  c.equals.toList ++ c.startsWith.toList ++ c.pattern.toList

/-- The operator of a clause that has just one. -/
inductive Compares (sizeLimit : Nat) (c : Clause) : Operator → Prop
  | equals {s : String} : c.equals = some s → c.startsWith = none → c.pattern = none →
      Compares sizeLimit c (.equals s)
  | startsWith {s : String} : c.equals = none → c.startsWith = some s → c.pattern = none →
      Compares sizeLimit c (.startsWith s)
  | pattern {s : String} {regex : Regex} : c.equals = none → c.startsWith = none →
      c.pattern = some s → Regex.compile s sizeLimit = .ok regex →
      Compares sizeLimit c (.pattern regex)

/-- Why a clause on a field has no operator to compare with. -/
inductive Incomparable (sizeLimit : Nat) (c : Clause) (name : String) : EntryError → Prop
  | none : c.operands = [] → Incomparable sizeLimit c name (.invalidRule (.noOperator name))
  | several : 1 < c.operands.length →
      Incomparable sizeLimit c name (.invalidRule (.severalOperators name))
  | pattern {s : String} {e : PatternError} : c.equals = .none → c.startsWith = .none →
      c.pattern = some s → Regex.compile s sizeLimit = .error e →
      Incomparable sizeLimit c name (.pattern s e)

/-- The condition that a clause states: it has a field, one operator and a template, and no
fallback. -/
inductive States (sizeLimit : Nat) (c : Clause) : Condition → Prop
  | intro {f : Field} {o : Operator} {source : String} {t : Template} : c.fallback = none →
      c.field = some f.name → c.Compares sizeLimit o → c.result = some source →
      Template.parse source = .ok t → States sizeLimit c ⟨f, o, t⟩

/-- The clause that holds a fallback and nothing else. -/
def closing (w : Toml.Value) : Clause := ⟨none, none, none, none, none, some w⟩

/-- Why a clause neither states a condition nor closes a rule.  What is missing in a condition is
looked for in the order of its parts. -/
inductive Offends (sizeLimit : Nat) (c : Clause) : EntryError → Prop
  | missingIf : c.fallback = none → c.field = none →
      Offends sizeLimit c (.invalidRule .missingIf)
  | unknownField {name : String} : c.fallback = none → c.field = some name →
      (∀ f : Field, f.name ≠ name) → Offends sizeLimit c (.unknownField name)
  | operator {f : Field} {err : EntryError} : c.fallback = none → c.field = some f.name →
      c.Incomparable sizeLimit f.name err → Offends sizeLimit c err
  | missingThen {f : Field} {o : Operator} : c.fallback = none → c.field = some f.name →
      c.Compares sizeLimit o → c.result = none →
      Offends sizeLimit c (.invalidRule (.missingThen f.name))
  | template {f : Field} {o : Operator} {source : String} {e : TemplateError} : c.fallback = none →
      c.field = some f.name → c.Compares sizeLimit o → c.result = some source →
      Template.parse source = .error e → Offends sizeLimit c (.template e)
  | elseWithCondition {w : Toml.Value} : c.fallback = some w → c ≠ closing w →
      Offends sizeLimit c (.invalidRule .elseWithCondition)
  | literal {w : Toml.Value} : c = closing w → (∀ v : Value, w ≠ v.literal) →
      Offends sizeLimit c (.invalidRule (.unsupportedLiteral w))

variable {sizeLimit : Nat} {c : Clause} {name : String} {err : EntryError}

theorem operator_of_compares {o : Operator} (h : c.Compares sizeLimit o) (name : String) :
    c.operator sizeLimit name = .ok o := by
  cases h with
  | equals he hs hp => rw [operator, he, hs, hp]
  | startsWith he hs hp => rw [operator, he, hs, hp]
  | pattern he hs hp hcompile =>
      rw [operator, he, hs, hp]
      dsimp only
      rw [Operator.ofPattern, hcompile]

theorem operator_of_incomparable (h : c.Incomparable sizeLimit name err) :
    c.operator sizeLimit name = .error err := by
  cases h with
  | none hnone =>
      have hempty : c.equals = .none ∧ c.startsWith = .none ∧ c.pattern = .none := by
        simpa [operands, and_assoc] using hnone
      obtain ⟨he, hs, hp⟩ := hempty
      rw [operator, he, hs, hp]
  | several hseveral =>
      rw [operator]
      cases he : c.equals <;> cases hs : c.startsWith <;> cases hp : c.pattern <;>
        simp [operands, he, hs, hp] at hseveral ⊢
  | pattern he hs hp hcompile =>
      rw [operator, he, hs, hp]
      dsimp only
      rw [Operator.ofPattern, hcompile]

theorem compares_or_incomparable (sizeLimit : Nat) (c : Clause) (name : String) :
    (∃ o, c.Compares sizeLimit o) ∨ ∃ err, c.Incomparable sizeLimit name err := by
  by_cases hseveral : 1 < c.operands.length
  · exact .inr ⟨_, .several hseveral⟩
  cases he : c.equals with
  | some s =>
      have hothers : c.startsWith = none ∧ c.pattern = none := by
        cases hs : c.startsWith <;> cases hp : c.pattern <;>
          simp [operands, he, hs, hp] at hseveral ⊢
      exact .inl ⟨_, .equals he hothers.1 hothers.2⟩
  | none =>
      cases hs : c.startsWith with
      | some s =>
          have hother : c.pattern = none := by
            cases hp : c.pattern <;> simp [operands, he, hs, hp] at hseveral ⊢
          exact .inl ⟨_, .startsWith he hs hother⟩
      | none =>
          cases hp : c.pattern with
          | some s =>
              cases hcompile : Regex.compile s sizeLimit with
              | ok regex => exact .inl ⟨_, .pattern he hs hp hcompile⟩
              | error e => exact .inr ⟨_, .pattern he hs hp hcompile⟩
          | none => exact .inr ⟨_, .none (by simp [operands, he, hs, hp])⟩

theorem condition_of_field {f : Field} (h : c.field = some f.name) :
    c.condition sizeLimit = (c.operator sizeLimit f.name >>= fun o =>
      c.result.elim (.error (.invalidRule (.missingThen f.name))) fun source =>
        (Template.ofSource source).map fun t => ⟨f, o, t⟩) := by
  rw [condition, h]
  dsimp only
  rw [Field.named?_name]
  dsimp only
  cases c.operator sizeLimit f.name with
  | error err => rfl
  | ok o =>
      simp only [Result.ok_bind]
      cases c.result with
      | none => rfl
      | some source => cases Template.ofSource source <;> rfl

theorem condition_of_states {k : Condition} (h : c.States sizeLimit k) :
    c.condition sizeLimit = .ok k := by
  obtain ⟨_, hfield, hcompares, hresult, hparse⟩ := h
  rw [condition_of_field hfield, operator_of_compares hcompares, Result.ok_bind, hresult,
    Option.elim_some, Template.ofSource, hparse]
  rfl

theorem isBare_closing (w : Toml.Value) : (closing w).isBare := rfl

theorem eq_closing_iff {w : Toml.Value} (h : c.fallback = some w) : c = closing w ↔ c.isBare := by
  constructor
  · intro hc
    rw [hc, isBare_closing]
  · intro hbare
    obtain ⟨field, equals, startsWith, pattern, result, fallback⟩ := c
    simp only [isBare, Bool.and_eq_true, Option.isNone_iff_eq_none] at hbare
    obtain ⟨⟨⟨⟨rfl, rfl⟩, rfl⟩, rfl⟩, rfl⟩ := hbare
    cases h
    rfl

/-- Every clause states a condition, closes a rule, or offends. -/
theorem states_or_closes_or_offends (sizeLimit : Nat) (c : Clause) :
    (∃ k, c.States sizeLimit k) ∨ (∃ v : Value, c = closing v.literal) ∨
      ∃ err, c.Offends sizeLimit err := by
  cases hfallback : c.fallback with
  | some w =>
      by_cases hclosing : c = closing w
      · by_cases hliteral : ∃ v : Value, w = v.literal
        · obtain ⟨v, rfl⟩ := hliteral
          exact .inr (.inl ⟨v, hclosing⟩)
        · push Not at hliteral
          exact .inr (.inr ⟨_, .literal hclosing hliteral⟩)
      · exact .inr (.inr ⟨_, .elseWithCondition hfallback hclosing⟩)
  | none =>
      cases hfield : c.field with
      | none => exact .inr (.inr ⟨_, .missingIf hfallback hfield⟩)
      | some name =>
          by_cases hknown : ∃ f : Field, f.name = name
          · obtain ⟨f, rfl⟩ := hknown
            rcases compares_or_incomparable sizeLimit c f.name with ⟨o, ho⟩ | ⟨err, herr⟩
            · cases hresult : c.result with
              | none => exact .inr (.inr ⟨_, .missingThen hfallback hfield ho hresult⟩)
              | some source =>
                  cases hparse : Template.parse source with
                  | ok t => exact .inl ⟨_, .intro hfallback hfield ho hresult hparse⟩
                  | error e =>
                      exact .inr (.inr ⟨_, .template hfallback hfield ho hresult hparse⟩)
            · exact .inr (.inr ⟨_, .operator hfallback hfield herr⟩)
          · push Not at hknown
            exact .inr (.inr ⟨_, .unknownField hfallback hfield hknown⟩)

/-! ## Lists of clauses -/

theorem fallbackOf_eq (v : Value) : fallbackOf v = if v = .no then none else some v := by
  simp [fallbackOf, Value.isNo]

theorem conditions_of_states {k : Condition} (h : c.States sizeLimit k) (rest : List Clause) :
    conditions sizeLimit (c :: rest) =
      (conditions sizeLimit rest).map fun r => (k :: r.1, r.2) := by
  have hcondition := condition_of_states h
  obtain ⟨hfallback, _⟩ := h
  rw [conditions, hfallback]
  dsimp only
  rw [hcondition]

theorem fallbackValue_closing (v : Value) :
    (closing v.literal).fallbackValue v.literal = .ok (fallbackOf v) := by
  rw [fallbackValue, if_pos (isBare_closing _), Value.ofLiteral_literal]
  rfl

theorem conditions_closing (sizeLimit : Nat) (v : Value) :
    conditions sizeLimit [closing v.literal] = .ok ([], fallbackOf v) := by
  have hvalue := fallbackValue_closing v
  rw [conditions]
  simp only [closing] at hvalue ⊢
  rw [hvalue]

theorem conditions_closing_cons (sizeLimit : Nat) (v : Value) (next : Clause)
    (after : List Clause) :
    conditions sizeLimit (closing v.literal :: next :: after) =
      .error (.invalidRule .clauseAfterElse) := by
  have hvalue := fallbackValue_closing v
  rw [conditions]
  simp only [closing] at hvalue ⊢
  rw [hvalue]

theorem condition_of_offends (h : c.Offends sizeLimit err) (hfallback : c.fallback = none) :
    c.condition sizeLimit = .error err := by
  cases h with
  | missingIf _ hfield => rw [condition, hfield]
  | @unknownField name _ hfield hunknown =>
      have hnone : Field.named? name = none := by
        rw [Option.eq_none_iff_forall_ne_some]
        intro f hf
        exact hunknown f (Field.named?_eq_some_iff.mp hf)
      rw [condition, hfield]
      dsimp only
      rw [hnone]
  | operator _ hfield hincomparable =>
      rw [condition_of_field hfield, operator_of_incomparable hincomparable]
      rfl
  | missingThen _ hfield hcompares hresult =>
      rw [condition_of_field hfield, operator_of_compares hcompares, hresult]
      rfl
  | template _ hfield hcompares hresult hparse =>
      rw [condition_of_field hfield, operator_of_compares hcompares, Result.ok_bind, hresult,
        Option.elim_some, Template.ofSource, hparse]
      rfl
  | elseWithCondition hsome _ => cases hfallback.symm.trans hsome
  | literal hclosing _ =>
      subst hclosing
      cases hfallback

theorem fallbackValue_of_offends (h : c.Offends sizeLimit err) {w : Toml.Value}
    (hfallback : c.fallback = some w) : c.fallbackValue w = .error err := by
  cases h with
  | elseWithCondition hsome hne =>
      cases hfallback.symm.trans hsome
      have hbare : ¬ c.isBare := fun hbare => hne ((eq_closing_iff hfallback).mpr hbare)
      rw [fallbackValue, if_neg hbare]
  | literal hclosing hne =>
      subst hclosing
      cases hfallback
      rw [fallbackValue, if_pos (isBare_closing _), Value.ofLiteral_of_ne hne]
      rfl
  | missingIf hnone _ => cases hnone.symm.trans hfallback
  | unknownField hnone _ _ => cases hnone.symm.trans hfallback
  | operator hnone _ _ => cases hnone.symm.trans hfallback
  | missingThen hnone _ _ _ => cases hnone.symm.trans hfallback
  | template hnone _ _ _ _ => cases hnone.symm.trans hfallback

theorem conditions_of_offends (h : c.Offends sizeLimit err) (rest : List Clause) :
    conditions sizeLimit (c :: rest) = .error err := by
  rw [conditions]
  cases hfallback : c.fallback with
  | none =>
      dsimp only
      rw [condition_of_offends h hfallback]
  | some w =>
      dsimp only
      rw [fallbackValue_of_offends h hfallback]

/-- Clauses that state conditions are passed over. -/
theorem conditions_append {body : List Clause} {ks : List Condition}
    (h : List.Forall₂ (States sizeLimit) body ks) (rest : List Clause) :
    conditions sizeLimit (body ++ rest) =
      (conditions sizeLimit rest).map fun r => (ks ++ r.1, r.2) := by
  induction h with
  | nil =>
      simp only [List.nil_append]
      cases conditions sizeLimit rest <;> rfl
  | cons hstates _ ih =>
      rw [List.cons_append, conditions_of_states hstates, ih]
      cases conditions sizeLimit rest <;> rfl

theorem conditions_eq_ok_iff {cs : List Clause} {ks : List Condition} {fallback : Option Value} :
    conditions sizeLimit cs = .ok (ks, fallback) ↔
      ∃ body v, cs = body ++ [closing v.literal] ∧ List.Forall₂ (States sizeLimit) body ks ∧
        fallback = fallbackOf v := by
  constructor
  · intro h
    induction cs generalizing ks with
    | nil => cases h
    | cons c rest ih =>
        rcases states_or_closes_or_offends sizeLimit c with ⟨k, hk⟩ | ⟨v, rfl⟩ | ⟨err, herr⟩
        · rw [conditions_of_states hk] at h
          obtain ⟨⟨ks', fallback'⟩, hrest, heq⟩ := Result.map_eq_ok_iff.mp h
          cases heq
          obtain ⟨body, v, rfl, hbody, hfallback⟩ := ih hrest
          exact ⟨c :: body, v, rfl, .cons hk hbody, hfallback⟩
        · cases rest with
          | nil =>
              rw [conditions_closing] at h
              cases h
              exact ⟨[], v, rfl, .nil, rfl⟩
          | cons next after =>
              rw [conditions_closing_cons] at h
              cases h
        · rw [conditions_of_offends herr] at h
          cases h
  · rintro ⟨body, v, rfl, hbody, rfl⟩
    rw [conditions_append hbody, conditions_closing]
    simp [Except.map]

/-- Why clauses make no rule: the first one that offends, a clause behind the one that closes the
rule, or that none closes it. -/
inductive Fault (sizeLimit : Nat) (cs : List Clause) : EntryError → Prop
  | clause {before after : List Clause} {c : Clause} {ks : List Condition} {err : EntryError} :
      cs = before ++ c :: after → List.Forall₂ (States sizeLimit) before ks →
      c.Offends sizeLimit err → Fault sizeLimit cs err
  | afterElse {before after : List Clause} {v : Value} {next : Clause} {ks : List Condition} :
      cs = before ++ closing v.literal :: next :: after →
      List.Forall₂ (States sizeLimit) before ks → Fault sizeLimit cs (.invalidRule .clauseAfterElse)
  | missingElse {ks : List Condition} : List.Forall₂ (States sizeLimit) cs ks →
      Fault sizeLimit cs (.invalidRule .missingElse)

theorem Fault.cons {k : Condition} {rest : List Clause} (hk : c.States sizeLimit k)
    (h : Fault sizeLimit rest err) : Fault sizeLimit (c :: rest) err := by
  cases h with
  | clause hsplit hbefore hoffends =>
      subst hsplit
      exact .clause (List.cons_append ..).symm (.cons hk hbefore) hoffends
  | afterElse hsplit hbefore =>
      subst hsplit
      exact .afterElse (List.cons_append ..).symm (.cons hk hbefore)
  | missingElse hall => exact .missingElse (.cons hk hall)

theorem conditions_eq_error_iff {cs : List Clause} :
    conditions sizeLimit cs = .error err ↔ Fault sizeLimit cs err := by
  constructor
  · intro h
    induction cs with
    | nil =>
        cases h
        exact .missingElse .nil
    | cons c rest ih =>
        rcases states_or_closes_or_offends sizeLimit c with ⟨k, hk⟩ | ⟨v, rfl⟩ | ⟨err', herr⟩
        · rw [conditions_of_states hk, Result.map_eq_error_iff] at h
          exact (ih h).cons hk
        · cases rest with
          | nil =>
              rw [conditions_closing] at h
              cases h
          | cons next after =>
              rw [conditions_closing_cons] at h
              cases h
              exact .afterElse (List.nil_append _).symm .nil
        · rw [conditions_of_offends herr] at h
          cases h
          exact .clause (List.nil_append _).symm .nil herr
  · intro h
    cases h with
    | clause hsplit hbefore hoffends =>
        rw [hsplit, conditions_append hbefore, conditions_of_offends hoffends]
        rfl
    | afterElse hsplit hbefore =>
        rw [hsplit, conditions_append hbefore, conditions_closing_cons]
        rfl
    | missingElse hall =>
        have hnil := conditions_append hall []
        rw [List.append_nil] at hnil
        rw [hnil]
        rfl

end Clause

/-! ## Writing rules down -/

/-- The clause that states a condition. -/
def Condition.clause (k : Condition) : Clause :=
  let named : Clause := ⟨some k.field.name, none, none, none, some k.result.source, none⟩
  match k.operator with
  | .equals s => { named with equals := some s }
  | .startsWith s => { named with startsWith := some s }
  | .pattern regex => { named with pattern := some regex.source }

/-- Whether a condition is what its own spelling is read as. -/
structure Condition.Spelled (sizeLimit : Nat) (k : Condition) : Prop where
  result : Template.parse k.result.source = .ok k.result
  operator : ∀ regex, k.operator = .pattern regex → Regex.compile regex.source sizeLimit = .ok regex

theorem Clause.states_iff {sizeLimit : Nat} {c : Clause} {k : Condition} :
    c.States sizeLimit k ↔ c = k.clause ∧ k.Spelled sizeLimit := by
  constructor
  · rintro ⟨hfallback, hfield, hcompares, hresult, hparse⟩
    have hsource := Template.source_of_parse hparse
    obtain ⟨field, equals, startsWith, pattern, result, fallback⟩ := c
    dsimp only at hfallback hfield hresult
    subst hfallback hfield hresult hsource
    cases hcompares with
    | equals he hs hp =>
        dsimp only at he hs hp
        subst he hs hp
        exact ⟨rfl, hparse, fun regex h => by cases h⟩
    | startsWith he hs hp =>
        dsimp only at he hs hp
        subst he hs hp
        exact ⟨rfl, hparse, fun regex h => by cases h⟩
    | pattern he hs hp hcompile =>
        have hpattern := Regex.source_of_compile hcompile
        dsimp only at he hs hp
        subst he hs hp hpattern
        refine ⟨rfl, hparse, fun regex h => ?_⟩
        cases h
        exact hcompile
  · rintro ⟨rfl, hresult, hoperator⟩
    obtain ⟨f, o, t⟩ := k
    cases o with
    | equals s => exact .intro rfl rfl (.equals rfl rfl rfl) rfl hresult
    | startsWith s => exact .intro rfl rfl (.startsWith rfl rfl rfl) rfl hresult
    | pattern regex => exact .intro rfl rfl (.pattern rfl rfl rfl (hoperator regex rfl)) rfl hresult

namespace Rule

/-- The clauses of some conditions and a fallback. -/
def written (ks : List Condition) (fallback : Option Value) : List Clause :=
  ks.map Condition.clause ++ [Clause.closing (fallback.getD .no).literal]

/-- The rule that clauses spell: a condition for each clause but the last, and the literal of the
last one as its fallback, unless that is the negative one. -/
inductive SpelledBy (sizeLimit : Nat) (cs : List Clause) : Rule → Prop
  | intro {body : List Clause} {ks : List Condition} {v : Value} :
      cs = body ++ [Clause.closing v.literal] → List.Forall₂ (Clause.States sizeLimit) body ks →
      SpelledBy sizeLimit cs (.conditional ks (if v = .no then none else some v))

variable {sizeLimit : Nat} {cs : List Clause} {ks : List Condition} {fallback : Option Value}

theorem forall₂_states_iff {body : List Clause} :
    List.Forall₂ (Clause.States sizeLimit) body ks ↔
      body = ks.map Condition.clause ∧ ∀ k ∈ ks, k.Spelled sizeLimit := by
  induction ks generalizing body with
  | nil => simp
  | cons k ks ih =>
      rw [List.forall₂_cons_right_iff, List.map_cons, List.forall_mem_cons]
      constructor
      · rintro ⟨c, rest, hc, hrest, rfl⟩
        obtain ⟨rfl, hk⟩ := Clause.states_iff.mp hc
        obtain ⟨rfl, hks⟩ := ih.mp hrest
        exact ⟨rfl, hk, hks⟩
      · rintro ⟨rfl, hk, hks⟩
        exact ⟨_, _, Clause.states_iff.mpr ⟨rfl, hk⟩, ih.mpr ⟨rfl, hks⟩, rfl⟩

theorem ofClauses_eq_ok_iff {r : Rule} :
    ofClauses sizeLimit cs = .ok r ↔ SpelledBy sizeLimit cs r := by
  rw [ofClauses, Result.map_eq_ok_iff]
  constructor
  · rintro ⟨⟨ks, fallback⟩, h, rfl⟩
    obtain ⟨body, v, hsplit, hbody, rfl⟩ := Clause.conditions_eq_ok_iff.mp h
    rw [Clause.fallbackOf_eq]
    exact .intro hsplit hbody
  · rintro ⟨hsplit, hbody⟩
    rw [← Clause.fallbackOf_eq]
    exact ⟨_, Clause.conditions_eq_ok_iff.mpr ⟨_, _, hsplit, hbody, rfl⟩, rfl⟩

theorem ofClauses_eq_error_iff {err : EntryError} :
    ofClauses sizeLimit cs = .error err ↔ Clause.Fault sizeLimit cs err := by
  rw [ofClauses, Result.map_eq_error_iff, Clause.conditions_eq_error_iff]

theorem spelledBy_conditional_iff :
    SpelledBy sizeLimit cs (.conditional ks fallback) ↔
      cs = written ks fallback ∧ fallback ≠ some .no ∧ ∀ k ∈ ks, k.Spelled sizeLimit := by
  constructor
  · intro h
    generalize hrule : Rule.conditional ks fallback = r at h
    obtain @⟨body, ks', v, hsplit, hbody⟩ := h
    cases hrule
    obtain ⟨rfl, hks⟩ := forall₂_states_iff.mp hbody
    by_cases hv : v = .no
    · subst hv
      exact ⟨hsplit, by simp, hks⟩
    · rw [if_neg hv]
      refine ⟨hsplit, ?_, hks⟩
      intro hno
      exact hv (Option.some.inj hno)
  · rintro ⟨rfl, hne, hks⟩
    have hbody := forall₂_states_iff.mpr ⟨rfl, hks⟩
    have hspelled : SpelledBy sizeLimit (written ks fallback) _ := .intro rfl hbody
    cases fallback with
    | none => exact hspelled
    | some v =>
        have hv : v ≠ .no := fun hno => hne (congrArg some hno)
        have hfallback : (some v).getD Value.no = v := rfl
        rw [hfallback, if_neg hv] at hspelled
        exact hspelled

/-- Which clauses make a rule and which rule that is, which fault is reported if they make none, and
which clauses make a given rule: those that it is written as, and no others. -/
theorem clauses_make_rule (sizeLimit : Nat) (cs : List Clause) :
    (∀ r, ofClauses sizeLimit cs = .ok r ↔ SpelledBy sizeLimit cs r) ∧
    (∀ err, ofClauses sizeLimit cs = .error err ↔ Clause.Fault sizeLimit cs err) ∧
    (∀ ks fallback, ofClauses sizeLimit cs = .ok (.conditional ks fallback) ↔
      cs = written ks fallback ∧ fallback ≠ some .no ∧ ∀ k ∈ ks, k.Spelled sizeLimit) := by
  refine ⟨fun r => ofClauses_eq_ok_iff, fun err => ofClauses_eq_error_iff, ?_⟩
  intro ks fallback
  rw [ofClauses_eq_ok_iff, spelledBy_conditional_iff]

end Rule
end EnvelopeRules
