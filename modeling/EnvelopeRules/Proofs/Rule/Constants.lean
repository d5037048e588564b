import EnvelopeRules.Lookup
import EnvelopeRules.Proofs.Template.Substitution
import Mathlib.Tactic.TFAE

/-!
# Constant templates

A template that refers to nothing is one whose result does not depend on the captures or the
envelope.  What a lookup rule names whatever the envelope is what its constant templates render to,
in order, and last its fallback.
-/

namespace EnvelopeRules
namespace Template

/-- A template that renders to one text for all captures and envelopes. -/
def Constant (t : Template) (text : String) : Prop := ∀ c e, t.render c e = .ok text

/-- A template whose result depends on the captures or on the envelope. -/
def Varies (t : Template) : Prop := ∃ c e c' e', t.render c e ≠ t.render c' e'

variable {t : Template} {c : Captures} {e : Envelope} {text : String}

/-! ## Rendering token by token -/

theorem exists_renderTokens_iff {ks : List Token} :
    (∃ text, renderTokens c e ks = .ok text) ↔ ∀ k ∈ ks, ∃ text, k.render c e = .ok text := by
  rw [← Result.exists_mapM_eq_ok_iff, renderTokens_eq_mapM]
  constructor
  · rintro ⟨_, h⟩
    obtain ⟨shown, hshown, _⟩ := Result.map_eq_ok_iff.mp h
    exact ⟨shown, hshown⟩
  · rintro ⟨shown, hshown⟩
    exact ⟨_, Result.map_eq_ok_iff.mpr ⟨shown, hshown, rfl⟩⟩

theorem Token.exists_text_of_render {k : Token} (h : k.render .none .empty = .ok text) :
    ∃ text, k.text? = some text := by
  cases k with
  | literal a => exact ⟨a, rfl⟩
  | capture index => simp [Token.render, Captures.get, Captures.none] at h
  | field f => simp [Token.render, Envelope.text?] at h

theorem exists_lt_captures (ks : List Token) : ∃ n, ∀ index, .capture index ∈ ks → index < n := by
  induction ks with
  | nil => exact ⟨0, by simp⟩
  | cons k ks ih =>
      obtain ⟨n, hn⟩ := ih
      cases k with
      | capture i =>
          refine ⟨max n (i + 1), fun index h => ?_⟩
          rcases List.mem_cons.mp h with he | h
          · cases he
            omega
          · exact Nat.lt_of_lt_of_le (hn index h) (Nat.le_max_left n (i + 1))
      | literal a => exact ⟨n, by simpa using hn⟩
      | field f => exact ⟨n, by simpa using hn⟩

/-- Every template renders with enough captures and all fields. -/
theorem exists_render (t : Template) : ∃ c e text, t.render c e = .ok text := by
  obtain ⟨n, hn⟩ := exists_lt_captures t.tokens
  refine ⟨⟨List.replicate n none⟩, ⟨fun _ => some (.text "")⟩, exists_renderTokens_iff.mpr ?_⟩
  intro k hk
  cases k with
  | literal a => exact ⟨a, rfl⟩
  | capture index => exact ⟨"", by simp [Token.render, Captures.get, hn index hk]⟩
  | field f => exact ⟨"", rfl⟩

/-! ## Templates without references -/

theorem staticText_of_isStatic (h : t.isStatic = true) : ∃ text, t.staticText? = some text := by
  have hliteral : ∀ k ∈ t.tokens, ∃ text, k.text? = some text := fun k hk =>
    Option.isSome_iff_exists.mp (List.all_eq_true.mp h k hk)
  obtain ⟨texts, htexts⟩ := exists_texts hliteral
  exact ⟨String.join texts, by rw [staticText?, htexts, Option.map_some]⟩

theorem isStatic_of_render (h : t.render .none .empty = .ok text) : t.isStatic = true := by
  rw [isStatic, List.all_eq_true]
  intro k hk
  obtain ⟨x, hx⟩ := exists_renderTokens_iff.mp ⟨text, h⟩ k hk
  exact Option.isSome_iff_exists.mpr (Token.exists_text_of_render hx)

theorem isStatic_tfae (t : Template) :
    List.TFAE [t.isStatic = true, ∃ text, t.staticText? = some text,
      ∃ text, t.render .none .empty = .ok text, ∃ text, t.Constant text, ¬ t.Varies] := by
  tfae_have 1 → 2 := staticText_of_isStatic
  tfae_have 2 → 4 := fun ⟨text, h⟩ => ⟨text, fun _ _ => render_of_staticText h⟩
  tfae_have 4 → 5 := fun ⟨_, h⟩ ⟨c, e, c', e', hne⟩ => hne ((h c e).trans (h c' e').symm)
  tfae_have 5 → 3 := by
    -- Some captures and envelope give a text, so without any there is the same one.
    intro h
    obtain ⟨c, e, text, hrender⟩ := exists_render t
    by_contra hnone
    exact h ⟨.none, .empty, c, e, fun heq => hnone ⟨text, heq.trans hrender⟩⟩
  tfae_have 3 → 1 := fun ⟨_, h⟩ => isStatic_of_render h
  tfae_finish

theorem staticText_eq_some_iff : t.staticText? = some text ↔ t.Constant text := by
  constructor
  · exact fun h _ _ => render_of_staticText h
  · intro h
    have hconstant : ∃ text, t.Constant text := ⟨text, h⟩
    obtain ⟨text', htext'⟩ := ((isStatic_tfae t).out 1 3).mpr hconstant
    cases (render_of_staticText htext').symm.trans (h .none .empty)
    exact htext'

theorem staticText_eq_none_iff : t.staticText? = none ↔ t.Varies := by
  have h : (∃ text, t.staticText? = some text) ↔ ¬ t.Varies := (isStatic_tfae t).out 1 4
  rw [← not_iff_not, ← h, ← ne_eq, Option.ne_none_iff_exists']

/-! ## Several templates -/

/-- The texts of the constant templates among some templates, in order. -/
inductive Constants : List Template → List String → Prop
  | nil : Constants [] []
  | constant {t : Template} {ts : List Template} {text : String} {texts : List String} :
      t.Constant text → Constants ts texts → Constants (t :: ts) (text :: texts)
  | varying {t : Template} {ts : List Template} {texts : List String} :
      t.Varies → Constants ts texts → Constants (t :: ts) texts

theorem constants_iff {ts : List Template} {texts : List String} :
    Constants ts texts ↔ ts.filterMap staticText? = texts := by
  constructor
  · intro h
    induction h with
    | nil => rfl
    | constant ht _ ih => rw [List.filterMap_cons_some (staticText_eq_some_iff.mpr ht), ih]
    | varying ht _ ih => rw [List.filterMap_cons_none (staticText_eq_none_iff.mpr ht), ih]
  · rintro rfl
    induction ts with
    | nil => exact .nil
    | cons t ts ih =>
        cases ht : t.staticText? with
        | some text =>
            rw [List.filterMap_cons_some ht]
            exact .constant (staticText_eq_some_iff.mp ht) ih
        | none =>
            rw [List.filterMap_cons_none ht]
            exact .varying (staticText_eq_none_iff.mp ht) ih

end Template

/-! ## Rules -/

/-- The identifiers that a rule may give whatever the envelope. -/
inductive Rule.Known : Rule → List String → Prop
  | template {t : Template} {ids : List String} :
      Template.Constants [t] ids → Known (.template t) ids
  | identifier {conditions : List Condition} {id : String} {ids : List String} :
      Template.Constants (conditions.map Condition.result) ids →
      Known (.conditional conditions (some (.text id))) (ids ++ [id])
  | conditional {conditions : List Condition} {fallback : Option Value} {ids : List String} :
      Template.Constants (conditions.map Condition.result) ids →
      (∀ id, fallback ≠ some (.text id)) → Known (.conditional conditions fallback) ids

namespace LookupRule

theorem staticStores_of_known {r : Rule} {key : Option Template} {ids : List String}
    (h : r.Known ids) : staticStores ⟨r, key⟩ = ids := by
  cases h with
  | template h => simp [staticStores, Rule.templates, Rule.fallback?, Template.constants_iff.mp h]
  | identifier h =>
      simp [staticStores, Rule.templates, Rule.fallback?, Template.constants_iff.mp h, Value.text?]
  | @conditional conditions fallback ids h hfallback =>
      have hnone : fallback.bind Value.text? = none := by
        cases fallback with
        | none => rfl
        | some v =>
            cases v with
            | text id => exact absurd rfl (hfallback id)
            | integer n => rfl
            | bool b => rfl
      simp [staticStores, Rule.templates, Rule.fallback?, Template.constants_iff.mp h, hnone]

theorem exists_known (r : Rule) : ∃ ids, r.Known ids := by
  cases r with
  | template t => exact ⟨_, .template (Template.constants_iff.mpr rfl)⟩
  | conditional conditions fallback =>
      by_cases h : ∃ id, fallback = some (.text id)
      · obtain ⟨id, rfl⟩ := h
        exact ⟨_, .identifier (Template.constants_iff.mpr rfl)⟩
      · exact ⟨_, .conditional (Template.constants_iff.mpr rfl) (not_exists.mp h)⟩

theorem staticStores_eq_iff {r : LookupRule} {ids : List String} :
    r.staticStores = ids ↔ r.rule.Known ids := by
  refine ⟨?_, staticStores_of_known⟩
  rintro rfl
  obtain ⟨ids, h⟩ := exists_known r.rule
  have hids : r.staticStores = ids := staticStores_of_known h
  rwa [hids]

/-- A template refers to nothing exactly if its result does not depend on the captures and the
envelope, and then its own text is that result.  So the static stores of a rule are the results that
do not. -/
theorem static_iff_constant (t : Template) (r : LookupRule) :
    List.TFAE [t.isStatic = true, ∃ text, t.staticText? = some text,
      ∃ text, t.render .none .empty = .ok text, ∃ text, t.Constant text, ¬ t.Varies] ∧
    (∀ text, t.staticText? = some text ↔ t.Constant text) ∧
    ∀ ids, r.staticStores = ids ↔ r.rule.Known ids :=
  ⟨t.isStatic_tfae, fun _ => Template.staticText_eq_some_iff, fun _ => staticStores_eq_iff⟩

end LookupRule

end EnvelopeRules
