import EnvelopeRules.Check

/-!
# Events of the program itself

The parts that load and evaluate log under names of their own, so that the events of the program
itself can be told from theirs.
-/

namespace EnvelopeRules
namespace Check

/-- The events that the program itself logs. -/
def own (events : List LogEvent) : List LogEvent := events.filter (·.target = program)

/-- Whether no event is one of the program itself. -/
def Inner (events : List LogEvent) : Prop := ∀ e ∈ events, e.target ≠ program

theorem own_append (xs ys : List LogEvent) : own (xs ++ ys) = own xs ++ own ys :=
  List.filter_append xs ys

theorem own_eq_nil {events : List LogEvent} (h : Inner events) : own events = [] := by
  refine List.filter_eq_nil_iff.mpr fun e he => ?_
  simpa using h e he

theorem inner_nil : Inner [] := fun _ h => by cases h

theorem Inner.cons {e : LogEvent} {events : List LogEvent} (he : e.target ≠ program)
    (h : Inner events) : Inner (e :: events) := by
  intro e' he'
  rcases List.mem_cons.mp he' with rfl | he'
  · exact he
  · exact h e' he'

theorem Inner.append {xs ys : List LogEvent} (hx : Inner xs) (hy : Inner ys) :
    Inner (xs ++ ys) := by
  intro e he
  rcases List.mem_append.mp he with he | he
  · exact hx e he
  · exact hy e he

/-! ## Loading -/

theorem inner_addAll {β : Type} {skip : Bool} {part : DocumentSection}
    {build : RuleDocument → String → Toml.Value → Except EntryError β}
    {add : RuleDocument → String → β → Except LoadError RuleDocument}
    {added : RuleDocument → String → List LogEvent} (hadded : ∀ d name, Inner (added d name))
    (d : RuleDocument) (entries : List (String × Toml.Value)) :
    Inner (Trace.addAll skip part build add added d entries).1 := by
  induction entries generalizing d with
  | nil => exact inner_nil
  | cons entry rest ih =>
      obtain ⟨name, v⟩ := entry
      rw [Trace.addAll]
      cases build d name v with
      | ok b =>
          dsimp only
          cases add d name b with
          | ok d => exact (hadded d name).append (ih d)
          | error e => exact inner_nil
      | error e =>
          cases skip with
          | false => exact inner_nil
          | true => exact Inner.cons (by decide : "mailrule_core::loader" ≠ program) (ih d)

theorem inner_storeAdded (d : RuleDocument) (id : String) : Inner (Trace.storeAdded d id) := by
  rw [Trace.storeAdded]
  cases d.rules.stores.resolve id with
  | none => exact inner_nil
  | some s => exact Inner.cons (by decide : "mailrule_storage::registry" ≠ program) inner_nil

/-- The rules log nothing when they are added, whatever document they are added to. -/
theorem inner_addRules {β : Type} {skip : Bool} {part : DocumentSection}
    {build : RuleDocument → String → Toml.Value → Except EntryError β}
    {add : RuleDocument → String → β → Except LoadError RuleDocument}
    (d? : Option RuleDocument) (entries : List (String × Toml.Value)) :
    Inner (((d?.map fun d => Trace.addAll skip part build add (fun _ _ => []) d entries).map
      Prod.fst).getD []) := by
  cases d? with
  | none => exact inner_nil
  | some d => exact inner_addAll (fun _ _ => inner_nil) d entries

theorem inner_load (o : LoadOptions) (text : String) : Inner (Trace.load o text) := by
  rw [Trace.load]
  cases RawDocument.parse? text with
  | none => exact inner_nil
  | some raw =>
      have hraw : Inner (Trace.ofRaw o raw) := by
        rw [Trace.ofRaw]
        split
        · exact inner_nil
        · apply Inner.append
          · exact (inner_addAll inner_storeAdded _ _).append (inner_addRules _ _)
          · exact inner_addRules _ _
      exact hraw

/-! ## Evaluating -/

theorem inner_rule (r : Rule) (e : Envelope) : Inner (Trace.rule r e) := by
  have hconditions : ∀ position cs, Inner (Trace.conditions e position cs) := by
    intro position cs
    induction cs generalizing position with
    | nil => exact inner_nil
    | cons c rest ih =>
        rw [Trace.conditions]
        split
        · exact inner_nil
        · exact ih _
        · exact Inner.cons (by decide : "mailrule_core::rules::rule" ≠ program) inner_nil
  cases r with
  | template t => exact inner_nil
  | conditional cs fallback => exact hconditions 0 cs

theorem inner_evaluated (message name : String) (answer : Eval Value) :
    Inner (Trace.evaluated message name answer) := by
  cases answer with
  | ok v => exact Inner.cons (by decide : "mailrule_core::engine" ≠ program) inner_nil
  | error err => exact inner_nil

theorem inner_query (st : StoreState) (timeout : Nat) (id : String) (q : Query) :
    Inner (Trace.query st timeout id q) := by
  rw [Trace.query]
  split
  · exact inner_nil
  · refine Inner.append ?_ ?_
    · rw [Trace.storeQuery]
      split
      · exact Inner.cons (by decide : "mailrule_storage::cache" ≠ program) inner_nil
      · split
        · exact Inner.cons (by decide : "mailrule_storage::backend::memory" ≠ program) inner_nil
        · exact inner_nil
    · split
      · exact Inner.cons (by decide : "mailrule_core::lookup" ≠ program) inner_nil
      · exact inner_nil
      · exact Inner.cons (by decide : "mailrule_core::lookup" ≠ program) inner_nil

theorem inner_eval (rules : RuleSet) (name : String) (e : Envelope) :
    Inner (Trace.eval rules name e) := by
  rw [Trace.eval]
  split
  · exact inner_nil
  · exact (inner_rule _ _).append (inner_evaluated _ _ _)

theorem inner_lookup (en : Engine) (name : String) (e : Envelope) :
    Inner (Trace.lookup en name e) := by
  rw [Trace.lookup]
  split
  · exact inner_nil
  · refine ((inner_rule _ _).append ?_).append (inner_evaluated _ _ _)
    rw [Trace.request]
    split
    · exact inner_query _ _ _ _
    · exact inner_nil

theorem inner_run (en : Engine) (x : Expectation) (e : Envelope) : Inner (Trace.run en x e) := by
  rw [Trace.run]
  split
  · exact inner_eval _ _ _
  · exact inner_lookup _ _ _

theorem inner_verify (e : Envelope) (en : Engine) (xs : List Expectation) :
    Inner (Trace.verify e en xs) := by
  induction xs generalizing en with
  | nil => exact inner_nil
  | cons x rest ih => exact (inner_run en x e).append (ih _)

/-! ## The program -/

theorem checked_target (v : Verification) : (checked v).target = program := by
  rw [checked]
  split
  · split <;> rfl
  · rfl

/-- After a document is loaded, the program itself logs the results and nothing else of the
evaluation. -/
theorem own_checkEvents (s : Settings) (path : String) (d : RuleDocument) :
    own (checkEvents s path d) =
      (if d.envelope.isNone then [noEnvelope] else []) ++ (report s d).results.map checked ++
        (if (verdict (report s d)).isNone then [allPassed (report s d).results.length]
          else []) := by
  have hloaded : own [loaded path d] = [] :=
    own_eq_nil (.cons (by decide : "mailrule_core::loader" ≠ program) inner_nil)
  have hinitialized : own [initialized d] = [] :=
    own_eq_nil (.cons (by decide : "mailrule_core::engine" ≠ program) inner_nil)
  have hverify : own (Trace.verify (d.envelope.getD .empty)
      (Engine.ofRules d.rules s.engine.timeout) d.expectations) = [] :=
    own_eq_nil (inner_verify _ _ _)
  have hchecked : own ((report s d).results.map checked) = (report s d).results.map checked := by
    refine List.filter_eq_self.mpr fun e he => ?_
    obtain ⟨v, _, rfl⟩ := List.mem_map.mp he
    exact decide_eq_true (checked_target v)
  have hnone : own (if d.envelope.isNone then [noEnvelope] else []) =
      if d.envelope.isNone then [noEnvelope] else [] := by
    split <;> rfl
  have hpassed : own (if (verdict (report s d)).isNone then
        [allPassed (report s d).results.length] else []) =
      if (verdict (report s d)).isNone then [allPassed (report s d).results.length] else [] := by
    split <;> rfl
  rw [checkEvents, ← List.singleton_append, ← List.singleton_append (x := initialized d)]
  simp only [own_append, hloaded, hinitialized, hverify, hchecked, hnone, hpassed, List.nil_append,
    List.append_assoc]

end Check
end EnvelopeRules
