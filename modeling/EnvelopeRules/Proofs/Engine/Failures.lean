import EnvelopeRules.Proofs.Document.Loaded
import EnvelopeRules.Proofs.Rule.Asking

/-!
# Failures of loaded rules

A load checks the templates, the fallbacks and the stores that rules name in any case.  What can
still fail afterwards is a reference to something that the envelope or the captures do not have, and
a store whose name was made from such references.
-/

namespace EnvelopeRules

/-! ## Lookup rules -/

namespace LookupRule

/-- The stores that a rule may name on an envelope. -/
inductive Names (r : LookupRule) (e : Envelope) : String → Prop
  | rendered {t : Template} {captures : Captures} {id : String} : r.rule.Decides e t captures →
      t.render captures e = .ok id → Names r e id
  | fallback {conditions : List Condition} {id : String} :
      r.rule = .conditional conditions (some (.text id)) → Rule.NoneHolds e conditions →
      Names r e id

/-- Why a checked lookup rule gives no answer: something that it refers to is not there, or no store
has the name that a template with references was rendered to. -/
inductive Fails (r : LookupRule) (stores : Registry) (e : Envelope) : EvalError → Prop
  | lacks {err : EvalError} : r.rule.Lacks r.key e err → Fails r stores e err
  | store {t : Template} {captures : Captures} {id : String} : stores.contains id = false →
      r.rule.Decides e t captures → t.Refers → t.render captures e = .ok id →
      Fails r stores e (.storeNotFound id)

variable {r : LookupRule} {e : Envelope}

/-- A rule whose fallback names a store fails only for lack of something. -/
theorem lacks_of_request {err : EvalError}
    (hfallback : ∀ v, r.rule.fallback? = some v → ∃ id, v = .text id)
    (h : r.request e = .error err) : r.rule.Lacks r.key e err := by
  rcases request_eq_iff.mp h with _ | _ | hunasked
  cases hunasked with
  | rule hfails =>
      exact Rule.lacks_of_evaluateCaptured r.key (Rule.evaluateCaptured_eq_error_iff.mpr hfails)
  | @literal v hliteral hv =>
      obtain ⟨captures, hliteral⟩ := Rule.evaluate_eq_ok_iff.mp hliteral
      obtain ⟨conditions, hrule, _⟩ := Rule.fallback_of_literal hliteral
      obtain ⟨id, rfl⟩ := hfallback v (by rw [hrule]; rfl)
      cases hv
  | @key _ _ _ t _ _ _ hkey hmisses =>
      have hmem : t ∈ r.rule.templates ++ r.key.toList := List.mem_append_right _ (by simp [hkey])
      exact .template (Template.lacks_of_render hmem (Template.render_eq_error_iff.mpr hmisses))

theorem names_of_request {id : String} {q : Query} (h : r.request e = .ok (some (id, q))) :
    r.Names e id := by
  rcases request_eq_iff.mp h with hasks | _ | _
  obtain @⟨outcome, captures, _, _, houtcome, hid, _⟩ := hasks
  cases outcome with
  | rendered text =>
      cases hid
      obtain ⟨t, hdecides, hrender⟩ := Rule.decides_of_rendered houtcome
      exact .rendered hdecides hrender
  | literal v =>
      obtain ⟨conditions, hrule, hnone⟩ := Rule.fallback_of_literal houtcome
      cases v with
      | text s =>
          cases hid
          exact .fallback hrule hnone
      | integer n => cases hid
      | bool b => cases hid
  | noMatch => cases hid

/-- A store that no load has checked has its name from a template with references. -/
theorem Names.undeclared {id : String} {stores : Registry} (h : r.Names e id)
    (hdeclared : ∀ id ∈ r.staticStores, stores.contains id) (hid : stores.contains id = false) :
    ∃ t captures, r.rule.Decides e t captures ∧ t.Refers ∧ t.render captures e = .ok id := by
  -- The checked names are those of templates without references and of the fallback.
  have hstatic : id ∉ r.staticStores := fun hmem => by simp [hdeclared id hmem] at hid
  cases h with
  | @rendered t captures id hdecides hrender =>
      refine ⟨t, captures, hdecides, ?_, hrender⟩
      refine Template.refers_of_staticText (Option.eq_none_iff_forall_ne_some.mpr fun text ht => ?_)
      cases (Template.render_of_staticText ht).symm.trans hrender
      refine hstatic (List.mem_append_left _ ?_)
      exact List.mem_filterMap.mpr ⟨t, hdecides.mem_templates, ht⟩
  | fallback hrule _ =>
      refine absurd (List.mem_append_right _ ?_) hstatic
      simp [hrule, Rule.fallback?, Value.text?]

theorem Fails.ne_ruleNotFound {stores : Registry} {err : EvalError} (h : r.Fails stores e err)
    (name : String) : err ≠ .ruleNotFound name := by
  cases h with
  | lacks hlacks => exact hlacks.ne_ruleNotFound name
  | store _ _ _ _ => simp

end LookupRule

/-! ## Rulebooks -/

namespace Rulebook

variable {b : Rulebook} {name : String} {e : Envelope}

theorem eval_error {err : EvalError} (h : b.eval name e = .error err) :
    (b.evals.find? name = none ∧ err = .ruleNotFound name) ∨
      ∃ r, b.evals.find? name = some r ∧ r.Lacks none e err := by
  rw [eval] at h
  split at h
  · rename_i hnone
    cases h
    exact .inl ⟨hnone, rfl⟩
  · rename_i r hr
    exact .inr ⟨r, hr, Rule.lacks_of_evaluate (Result.map_eq_error_iff.mp h)⟩

theorem eval_unknown_iff {n : String} :
    b.eval name e = .error (.ruleNotFound n) ↔ b.evals.find? name = none ∧ n = name := by
  constructor
  · intro h
    rcases eval_error h with ⟨hnone, he⟩ | ⟨r, _, hlacks⟩
    · cases he
      exact ⟨hnone, rfl⟩
    · exact absurd rfl (hlacks.ne_ruleNotFound n)
  · rintro ⟨hnone, rfl⟩
    rw [eval, hnone]

/-- Rules that have passed the checks, with the members of their stores. -/
structure Matches (b : Rulebook) (rules : RuleSet) : Prop where
  checked : rules.Checked
  serves : rules.Serves b

variable {rules : RuleSet}

theorem Matches.fails_of_decide (h : b.Matches rules) {r : LookupRule}
    (hr : rules.lookups.find? name = some r) {err : EvalError}
    (herr : b.decide r e = .error err) : r.Fails rules.stores e err := by
  have hfallback : ∀ v, r.rule.fallback? = some v → ∃ id, v = .text id :=
    fun v hv => h.checked.fallback hr hv
  rw [decide] at herr
  split at herr
  · rename_i err' hrequest
    cases herr
    exact .lacks (LookupRule.lacks_of_request hfallback hrequest)
  · cases herr
  · rename_i id q hrequest
    rw [Result.map_eq_error_iff, ask] at herr
    split at herr
    · rename_i hnone
      cases herr
      have hid : rules.stores.contains id = false := by
        rw [← Bool.not_eq_true, h.serves.stores.contains_iff, hnone]
        simp
      obtain ⟨t, captures, hdecides, hrefers, hrender⟩ :=
        (LookupRule.names_of_request hrequest).undeclared
          (fun id hmem => h.checked.declared hr hmem) hid
      exact .store hid hdecides hrefers hrender
    · cases herr

theorem Matches.lookup_error (h : b.Matches rules) {err : EvalError}
    (herr : b.lookup name e = .error err) :
    (rules.lookups.find? name = none ∧ err = .ruleNotFound name) ∨
      ∃ r, rules.lookups.find? name = some r ∧ r.Fails rules.stores e err := by
  rw [lookup, ← h.serves.lookups] at herr
  split at herr
  · rename_i hnone
    cases herr
    exact .inl ⟨hnone, rfl⟩
  · rename_i r hr
    exact .inr ⟨r, hr, h.fails_of_decide hr herr⟩

theorem Matches.lookup_unknown_iff (h : b.Matches rules) {n : String} :
    b.lookup name e = .error (.ruleNotFound n) ↔ rules.lookups.find? name = none ∧ n = name := by
  constructor
  · intro herr
    rcases h.lookup_error herr with ⟨hnone, he⟩ | ⟨r, _, hfails⟩
    · cases he
      exact ⟨hnone, rfl⟩
    · exact absurd rfl (hfails.ne_ruleNotFound n)
  · rintro ⟨hnone, rfl⟩
    rw [lookup, ← h.serves.lookups, hnone]

theorem Matches.evaluate_unknown_iff (h : b.Matches rules) {n : String} :
    b.evaluate name e = .error (.ruleNotFound n) ↔
      rules.evals.find? name = none ∧ rules.lookups.find? name = none ∧ n = name := by
  rw [evaluate, Table.contains, ← h.serves.evals]
  cases hr : rules.evals.find? name with
  | none => simp [h.lookup_unknown_iff]
  | some r =>
      rw [h.serves.evals] at hr
      simp [eval_unknown_iff, hr]

/-- A lookup that finds no store has its name from the one template that decides. -/
theorem Matches.refers_of_storeNotFound (h : b.Matches rules) {r : LookupRule}
    (hr : rules.lookups.find? name = some r) {id : String}
    (herr : b.lookup name e = .error (.storeNotFound id)) :
    ∃ t captures, r.rule.Decides e t captures ∧ t.Refers := by
  rcases h.lookup_error herr with ⟨_, he⟩ | ⟨r', hr', hfails⟩
  · cases he
  · cases hr.symm.trans hr'
    cases hfails with
    | lacks hlacks =>
        rcases hlacks with _ | hlacks
        cases hlacks
    | store _ hdecides hrefers _ => exact ⟨_, _, hdecides, hrefers⟩

end Rulebook

/-! ## Engines -/

namespace Engine

/-- What a caller may count on when a rule is evaluated by name: an error says that there is no such
rule, or why the rule gives no answer. -/
structure Accountable (en : Engine) (rules : RuleSet) (name : String) (e : Envelope) : Prop where
  eval_error : ∀ err, en.eval name e = .error err →
    (rules.evals.find? name = none ∧ err = .ruleNotFound name) ∨
      ∃ r, rules.evals.find? name = some r ∧ r.Lacks none e err
  eval_unknown : ∀ n, en.eval name e = .error (.ruleNotFound n) ↔
    rules.evals.find? name = none ∧ n = name
  lookup_error : ∀ err, (en.lookup name e).1 = .error err →
    (rules.lookups.find? name = none ∧ err = .ruleNotFound name) ∨
      ∃ r, rules.lookups.find? name = some r ∧ r.Fails rules.stores e err
  lookup_unknown : ∀ n, (en.lookup name e).1 = .error (.ruleNotFound n) ↔
    rules.lookups.find? name = none ∧ n = name
  evaluate_unknown : ∀ n, (en.evaluate name e).1 = .error (.ruleNotFound n) ↔
    rules.evals.find? name = none ∧ rules.lookups.find? name = none ∧ n = name
  declared : ∀ r id, rules.lookups.find? name = some r → id ∈ r.staticStores →
    rules.stores.contains id ∧ en.rules.stores.contains id
  found_static : ∀ r t captures id, rules.lookups.find? name = some r →
    r.rule.Decides e t captures → ¬ t.Refers → (en.lookup name e).1 ≠ .error (.storeNotFound id)
  found_fallback : ∀ r conditions fallback id, rules.lookups.find? name = some r →
    r.rule = .conditional conditions fallback → Rule.NoneHolds e conditions →
    (en.lookup name e).1 ≠ .error (.storeNotFound id)

/-- The rules of a loaded document fail only for the reasons above, in every state that an engine
with them reaches, under every time limit. -/
theorem accountable_of_parse {o : LoadOptions} {text : String} {d : RuleDocument}
    (h : RuleDocument.parse o text = .ok d) (timeout : Nat) {en : Engine}
    (hen : (ofRules d.rules timeout).Reaches en) (name : String) (e : Envelope) :
    en.Accountable d.rules name e := by
  have hchecked := RuleDocument.checked_of_parse h
  obtain ⟨members, hserves⟩ := hchecked.serves
  have hbook : Rulebook.Matches _ d.rules := ⟨hchecked, hserves⟩
  have hinitial : (ofRules d.rules timeout).rules.Serves _ := hserves
  have hnow := hen.serves hinitial
  have heval := eval_of_serves hnow name e
  have hlookup := (lookup_of_serves hnow name e).1
  have hevaluate := (evaluate_of_serves hnow name e).1
  refine ⟨fun err herr => ?_, fun n => ?_, fun err herr => ?_, fun n => ?_, fun n => ?_,
    fun r id hr hid => ?_, fun r t captures id hr hdecides hrefers herr => ?_,
    fun r conditions fallback id hr hrule hnone herr => ?_⟩
  · exact Rulebook.eval_error (heval ▸ herr)
  · rw [heval]
    exact Rulebook.eval_unknown_iff
  · exact hbook.lookup_error (hlookup ▸ herr)
  · rw [hlookup]
    exact hbook.lookup_unknown_iff
  · rw [hevaluate]
    exact hbook.evaluate_unknown_iff
  · have hid' := hchecked.declared hr hid
    exact ⟨hid', hnow.stores.contains_iff.mpr (hserves.stores.contains_iff.mp hid')⟩
  · obtain ⟨t', captures', hdecides', hrefers'⟩ :=
      hbook.refers_of_storeNotFound hr (hlookup ▸ herr)
    obtain ⟨rfl, _⟩ := hdecides.unique hdecides'
    exact hrefers hrefers'
  · obtain ⟨t, captures, hdecides, _⟩ := hbook.refers_of_storeNotFound hr (hlookup ▸ herr)
    rw [hrule] at hdecides
    exact hdecides.not_noneHolds hnone

/-- One lookup rule that names its store in any case, and one that takes the sender for a store. -/
def senderStores : String :=
  "[store.mx]\ntype = \"memory\"\nformat = \"list\"\nvalues = [\"a.example\"]\n\n" ++
  "[maybe-eval]\nroute = [\"mx\", \"" ++ Template.reference "rcpt-domain" ++ "\"]\n" ++
  "pick = [\"" ++ Template.reference "sender" ++ "\"]\n"

def senderIs (sender : String) : Envelope := Envelope.empty.put .sender (.text sender)

/-- After an answer from a store, a sender that is no store is reported as one that is not found. -/
theorem accountable_senderStores :
    ∃ d, RuleDocument.parse .default senderStores = .ok d ∧
      Accountable ((ofRules d.rules 0).answer (senderIs "mx") (.lookup "pick")).2 d.rules "pick"
        (senderIs "nobody") ∧
      ((ofRules d.rules 0).lookup "pick" (senderIs "mx")).1 = .ok (.text "a.example") ∧
      ((ofRules d.rules 0).lookup "pick" (senderIs "nobody")).1 =
        .error (.storeNotFound "nobody") := by
  have hcheck : (match RuleDocument.parse .default senderStores with
    | .error _ => false
    | .ok d =>
      ((ofRules d.rules 0).lookup "pick" (senderIs "mx")).1 = .ok (.text "a.example") ∧
      ((ofRules d.rules 0).lookup "pick" (senderIs "nobody")).1 =
        .error (.storeNotFound "nobody")) = true := by decide +kernel
  cases hd : RuleDocument.parse .default senderStores with
  | error err =>
      rw [hd] at hcheck
      cases hcheck
  | ok d =>
      rw [hd] at hcheck
      obtain ⟨hfound, hunknown⟩ := of_decide_eq_true hcheck
      exact ⟨d, rfl, accountable_of_parse hd 0 (.call _ _ .initial) _ _, hfound, hunknown⟩

end Engine

end EnvelopeRules
