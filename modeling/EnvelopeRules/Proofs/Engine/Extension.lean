import EnvelopeRules.Engine
import EnvelopeRules.Proofs.Rule.Deciding

/-!
# Envelopes with more fields

A rule reads only the fields that it names, and takes no field that is not set for an empty one or
for one that does not fit.  So more fields change a result only if it was an error for want of one
of them.
-/

namespace EnvelopeRules

/-! ## Results and envelopes -/

/-- Whether two results are the same, unless the first is an error for want of some field. -/
def Eval.SameBut {α : Type} (missing : Field → Prop) (x y : Eval α) : Prop :=
  y = x ∨ ∃ f, missing f ∧ x = .error (.fieldNotFound f)

theorem Eval.SameBut.bind {α β : Type} {missing : Field → Prop} {x y : Eval α} {f g : α → Eval β}
    (h : SameBut missing x y) (hf : ∀ a, x = .ok a → SameBut missing (f a) (g a)) :
    SameBut missing (x >>= f) (y >>= g) := by
  rcases h with rfl | ⟨k, hk, rfl⟩
  · cases y with
    | error err => exact .inl rfl
    | ok a => exact hf a rfl
  · exact .inr ⟨k, hk, rfl⟩

theorem Eval.SameBut.map {α β : Type} {missing : Field → Prop} {x y : Eval α}
    (h : SameBut missing x y) (f : α → β) : SameBut missing (x.map f) (y.map f) := by
  rcases h with rfl | ⟨k, hk, rfl⟩
  · exact .inl rfl
  · exact .inr ⟨k, hk, rfl⟩

/-- Whether a field reads the same in two envelopes, or is missing in the first one. -/
def Envelope.Keeps (e e' : Envelope) (missing : Field → Prop) (f : Field) : Prop :=
  e'.text? f = e.text? f ∨ e.text? f = none ∧ missing f

variable {e e' : Envelope} {missing : Field → Prop}

/-! ## Templates -/

namespace Template

theorem Token.sameBut_render (c : Captures) {k : Token}
    (h : ∀ f, k.field? = some f → e.Keeps e' missing f) :
    (k.render c e).SameBut missing (k.render c e') := by
  cases k with
  | literal text => exact .inl rfl
  | capture index => exact .inl rfl
  | field f =>
      rcases h f rfl with hsame | ⟨hnone, hf⟩
      · rw [Token.render, Token.render, hsame]
        exact .inl rfl
      · exact .inr ⟨f, hf, by rw [Token.render, hnone]⟩

theorem sameBut_renderTokens (c : Captures) {ks : List Token}
    (h : ∀ f ∈ ks.filterMap Token.field?, e.Keeps e' missing f) :
    (renderTokens c e ks).SameBut missing (renderTokens c e' ks) := by
  induction ks with
  | nil => exact .inl rfl
  | cons k ks ih =>
      have hk : ∀ f, k.field? = some f → e.Keeps e' missing f :=
        fun f hf => h f (List.mem_filterMap.mpr ⟨k, List.mem_cons_self, hf⟩)
      have hks : ∀ f ∈ ks.filterMap Token.field?, e.Keeps e' missing f := by
        intro f hf
        obtain ⟨k', hk', hf⟩ := List.mem_filterMap.mp hf
        exact h f (List.mem_filterMap.mpr ⟨k', List.mem_cons_of_mem _ hk', hf⟩)
      rw [renderTokens_cons, renderTokens_cons]
      exact (Token.sameBut_render c hk).bind fun text _ => (ih hks).map _

theorem sameBut_render {t : Template} (c : Captures)
    (h : ∀ f ∈ t.fields, e.Keeps e' missing f) :
    (t.render c e).SameBut missing (t.render c e') :=
  sameBut_renderTokens c h

end Template

/-! ## Rules -/

theorem Condition.sameBut_evaluate {c : Condition} (h : e.Keeps e' missing c.field) :
    (c.evaluate e).SameBut missing (c.evaluate e') := by
  rcases h with hsame | ⟨hnone, hf⟩
  · rw [evaluate, evaluate, hsame]
    exact .inl rfl
  · exact .inr ⟨c.field, hf, by rw [evaluate, hnone]⟩

namespace Rule

/-- The fields that a rule names in its conditions and templates. -/
def fields (r : Rule) : List Field := r.conditionFields ++ r.templates.flatMap Template.fields

theorem firstMatch_cons (e : Envelope) (fallback : Option Value) (c : Condition)
    (cs : List Condition) :
    firstMatch e fallback (c :: cs) = c.evaluate e >>= fun
      | none => firstMatch e fallback cs
      | some captures =>
          (c.result.render captures e).map fun text => (.rendered text, captures) := by
  rw [firstMatch]
  cases c.evaluate e with
  | error err => rfl
  | ok captures? =>
      cases captures? with
      | none => rfl
      | some captures =>
          dsimp only [Result.ok_bind]
          cases c.result.render captures e <;> rfl

theorem sameBut_firstMatch (fallback : Option Value) {cs : List Condition}
    (h : ∀ c ∈ cs, e.Keeps e' missing c.field ∧ ∀ f ∈ c.result.fields, e.Keeps e' missing f) :
    (firstMatch e fallback cs).SameBut missing (firstMatch e' fallback cs) := by
  induction cs with
  | nil => exact .inl rfl
  | cons c cs ih =>
      obtain ⟨⟨hfield, hresult⟩, hcs⟩ := List.forall_mem_cons.mp h
      rw [firstMatch_cons, firstMatch_cons]
      refine (Condition.sameBut_evaluate hfield).bind fun captures? _ => ?_
      cases captures? with
      | none => exact ih hcs
      | some captures => exact (Template.sameBut_render captures hresult).map _

theorem sameBut_evaluateCaptured {r : Rule} (h : ∀ f ∈ r.fields, e.Keeps e' missing f) :
    (r.evaluateCaptured e).SameBut missing (r.evaluateCaptured e') := by
  cases r with
  | template t =>
      have ht : ∀ f ∈ t.fields, e.Keeps e' missing f :=
        fun f hf => h f (by simpa [fields, conditionFields, templates] using hf)
      have hevaluate (d : Envelope) : (Rule.template t).evaluateCaptured d =
          (t.render .none d).map fun text => (.rendered text, .none) := by
        rw [evaluateCaptured]
        cases t.render .none d <;> rfl
      rw [hevaluate, hevaluate]
      exact (Template.sameBut_render .none ht).map _
  | conditional cs fallback =>
      refine sameBut_firstMatch fallback fun c hc => ⟨h _ ?_, fun f hf => h f ?_⟩
      · exact List.mem_append_left _ (List.mem_map_of_mem hc)
      · refine List.mem_append_right _ (List.mem_flatMap.mpr ⟨c.result, ?_, hf⟩)
        exact List.mem_map_of_mem hc

end Rule

/-! ## Lookups -/

namespace LookupRule

/-- The fields that a lookup rule names, in its key too. -/
def fields (r : LookupRule) : List Field := r.rule.fields ++ r.key.toList.flatMap Template.fields

theorem sameBut_ask {r : LookupRule} (id : String) (captures : Captures)
    (h : ∀ f ∈ r.key.toList.flatMap Template.fields, e.Keeps e' missing f) :
    (request.ask r e id captures).SameBut missing (request.ask r e' id captures) := by
  rw [request.ask, request.ask]
  cases hkey : r.key with
  | none => exact .inl rfl
  | some t =>
      have ht : ∀ f ∈ t.fields, e.Keeps e' missing f := fun f hf => h f (by simpa [hkey] using hf)
      dsimp only
      rcases Template.sameBut_render captures ht with hsame | ⟨f, hf, herr⟩
      · rw [hsame]
        exact .inl rfl
      · exact .inr ⟨f, hf, by rw [herr]⟩

theorem sameBut_request {r : LookupRule} (h : ∀ f ∈ r.fields, e.Keeps e' missing f) :
    (r.request e).SameBut missing (r.request e') := by
  have hrule : ∀ f ∈ r.rule.fields, e.Keeps e' missing f :=
    fun f hf => h f (List.mem_append_left _ hf)
  have hkey : ∀ f ∈ r.key.toList.flatMap Template.fields, e.Keeps e' missing f :=
    fun f hf => h f (List.mem_append_right _ hf)
  rw [request, request]
  rcases Rule.sameBut_evaluateCaptured hrule with hsame | ⟨f, hf, herr⟩
  · rw [hsame]
    split
    · exact .inl rfl
    · exact .inl rfl
    · exact sameBut_ask _ _ hkey
    · exact sameBut_ask _ _ hkey
    · exact .inl rfl
  · exact .inr ⟨f, hf, by rw [herr]⟩

end LookupRule

theorem StoreState.evaluate_sameBut {r : LookupRule} (st : StoreState) (timeout : Nat)
    (h : ∀ f ∈ r.fields, e.Keeps e' missing f) :
    st.evaluate timeout r e' = st.evaluate timeout r e ∨
      ∃ f, missing f ∧ (st.evaluate timeout r e).1 = .error (.fieldNotFound f) := by
  rw [evaluate, evaluate]
  rcases LookupRule.sameBut_request h with hsame | ⟨f, hf, herr⟩
  · rw [hsame]
    exact .inl rfl
  · rw [herr]
    exact .inr ⟨f, hf, rfl⟩

/-! ## Engines -/

def RuleSet.fields (rules : RuleSet) (kind : RuleKind) (name : String) : List Field :=
  match kind with
  | .eval => (rules.evals.find? name).toList.flatMap Rule.fields
  | .lookup => (rules.lookups.find? name).toList.flatMap LookupRule.fields

namespace Engine

theorem run_sameBut (en : Engine) (kind : RuleKind) (name : String)
    (h : ∀ f ∈ en.rules.fields kind name, e.Keeps e' missing f) :
    en.run kind name e' = en.run kind name e ∨
      ∃ f, missing f ∧ (en.run kind name e).1 = .error (.fieldNotFound f) := by
  cases kind with
  | eval =>
      rw [run, run, eval, eval, RuleSet.eval, RuleSet.eval]
      cases hrule : en.rules.evals.find? name with
      | none => exact .inl rfl
      | some rule =>
          have hfields : ∀ f ∈ rule.fields, e.Keeps e' missing f :=
            fun f hf => h f (by simpa [RuleSet.fields, hrule] using hf)
          dsimp only
          rcases ((Rule.sameBut_evaluateCaptured hfields).map Prod.fst).map Outcome.value with
            hsame | ⟨f, hf, herr⟩
          · rw [Rule.evaluate, Rule.evaluate, hsame]
            exact .inl rfl
          · exact .inr ⟨f, hf, herr⟩
  | lookup =>
      rw [run, run, lookup, lookup]
      cases hrule : en.rules.lookups.find? name with
      | none => exact .inl rfl
      | some rule =>
          have hfields : ∀ f ∈ rule.fields, e.Keeps e' missing f :=
            fun f hf => h f (by simpa [RuleSet.fields, hrule] using hf)
          dsimp only
          rcases StoreState.evaluate_sameBut en.state en.timeout hfields with hsame | hmissing
          · rw [hsame]
            exact .inl rfl
          · exact .inr hmissing

/-- More fields change a result only if it was an error for want of one of them, and only the fields
that a rule names change its result. -/
theorem run_monotone (en : Engine) (e e' : Envelope) :
    ((∀ f text, e.text? f = some text → e'.text? f = some text) → ∀ kind name,
      en.run kind name e' = en.run kind name e ∨
        ∃ f, (e.get? f = none ∧ (e'.get? f).isSome) ∧
          (en.run kind name e).1 = .error (.fieldNotFound f)) ∧
    ∀ kind name, (∀ f ∈ en.rules.fields kind name, e'.text? f = e.text? f) →
      en.run kind name e' = en.run kind name e := by
  constructor
  · intro hextends kind name
    refine run_sameBut en kind name fun f _ => ?_
    cases hf : e.get? f with
    | some v =>
        have htext : e.text? f = some v.render := by simp [Envelope.text?, hf]
        exact .inl ((hextends f _ htext).trans htext.symm)
    | none =>
        have htext : e.text? f = none := by simp [Envelope.text?, hf]
        cases hf' : e'.get? f with
        | some v => exact .inr ⟨htext, hf, by simp [hf']⟩
        | none => exact .inl (by simp [Envelope.text?, hf, hf'])
  -- If no field of the rule is missing, there is no error to make an exception for.
  · intro kind name hsame
    have hkeeps : ∀ f ∈ en.rules.fields kind name, e.Keeps e' (fun _ => False) f :=
      fun f hf => .inl (hsame f hf)
    rcases run_sameBut en kind name hkeeps with hrun | ⟨f, hf, _⟩
    · exact hrun
    · exact hf.elim

/-- A lookup of the sender in a store with a cache, within no time. -/
def senders : Engine :=
  ofRules ⟨.empty, Table.empty.insert "known"
      ⟨.template ⟨"people", [.literal "people"]⟩, some ⟨"${sender}", [.field .sender]⟩⟩,
    ⟨Table.empty.insert "people"
      ((Store.ofMemory "people" (.ofList ["a@b.example"])).cached ⟨1, 5, 5, Nat.one_pos⟩)⟩⟩ 0

def known : Envelope := Envelope.empty.put .sender (.text "a@b.example")

/-- Another field changes neither the answer nor what is remembered of it, whether it was set before
or not. -/
theorem run_monotone_senders :
    (senders.run .lookup "known" known).1 = .ok (.text "a@b.example") ∧
      senders.run .lookup "known" (known.put .mx (.text "mx.example")) =
        senders.run .lookup "known" known ∧
      senders.run .lookup "known" (known.put .mx (.text "mx.example")) =
        senders.run .lookup "known" (known.put .mx (.text "other.example")) := by
  have hanswer : (senders.run .lookup "known" known).1 = .ok (.text "a@b.example") := by
    decide +kernel
  refine ⟨hanswer, ?_, ?_⟩
  · have hextends : ∀ f text, known.text? f = some text →
        (known.put .mx (.text "mx.example")).text? f = some text := by
      intro f text hf
      by_cases hmx : f = .mx
      · subst hmx
        cases hf
      · rwa [Envelope.text?, Envelope.get?_put, if_neg hmx]
    rcases (run_monotone senders _ _).1 hextends .lookup "known" with hrun | ⟨f, _, herr⟩
    · exact hrun
    · cases hanswer.symm.trans herr
  · refine (run_monotone senders _ _).2 .lookup "known" fun f hf => ?_
    have hfields : senders.rules.fields .lookup "known" = [.sender] := by decide +kernel
    rw [hfields, List.mem_singleton] at hf
    subst hf
    rfl

end Engine
end EnvelopeRules
