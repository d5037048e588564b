import EnvelopeRules.Proofs.Document.Fitting
import EnvelopeRules.Proofs.Rule.Clauses
import EnvelopeRules.Proofs.Text.Bytes

/-!
# Why a load fails

A text is no document, its envelope is bad, or one of its entries is refused and bad entries are not
left out.  Then the first entry that is refused is reported, with the first thing that is wrong with
it.  A store that was built can always be registered.
-/

namespace EnvelopeRules
namespace RuleDocument

/-! ## One entry -/

/-- Why the test of an entry makes no rule. -/
inductive TestFault (sizeLimit : Nat) : RuleTest → EntryError → Prop
  | template {source : String} {e : TemplateError} : Template.parse source = .error e →
      TestFault sizeLimit (.template source) (.template e)
  | clauses {cs : List Clause} {err : EntryError} : Clause.Fault sizeLimit cs err →
      TestFault sizeLimit (.clauses cs) err

/-- An entry expects something that is no literal. -/
inductive ExpectFault (entry : RuleEntry) : EntryError → Prop
  | literal {w : Toml.Value} : entry.expect = some w → (∀ v : Value, w ≠ v.literal) →
      ExpectFault entry (.invalidRule (.unsupportedLiteral w))

/-- Why an entry declares no store. -/
inductive StoreFault (v : Toml.Value) : EntryError → Prop
  | shape : StoreEntry.ofValue? v = none → StoreFault v .shape
  | unsupported {entry : StoreEntry} : StoreEntry.ofValue? v = some entry →
      ¬ (entry.kind = "memory" ∧ entry.format = "list") →
      StoreFault v (.store (.unsupported entry.kind entry.format))

/-- Why an entry declares no rule for direct answers. -/
inductive EvalFault (o : LoadOptions) (v : Toml.Value) : EntryError → Prop
  | shape : RuleEntry.ofValue? v = none → EvalFault o v .shape
  | key {entry : RuleEntry} : RuleEntry.ofValue? v = some entry → entry.key ≠ none →
      EvalFault o v (.invalidRule .keyOnEvalRule)
  | test {entry : RuleEntry} {err : EntryError} : RuleEntry.ofValue? v = some entry →
      entry.key = none → TestFault o.sizeLimit entry.test err → EvalFault o v err
  | expect {entry : RuleEntry} {rule : Rule} {err : EntryError} :
      RuleEntry.ofValue? v = some entry → entry.key = none →
      Rule.ofTest o.sizeLimit entry.test = .ok rule → ExpectFault entry err → EvalFault o v err

/-- The lookup rule that an entry declares, whatever stores there are and whatever it is expected to
give. -/
inductive Drafts (o : LoadOptions) (v : Toml.Value) (entry : RuleEntry) : LookupRule → Prop
  | intro {rule : Rule} {key : Option Template} : RuleEntry.ofValue? v = some entry →
      buildKey entry.key = .ok key → Rule.ofTest o.sizeLimit entry.test = .ok rule →
      (∀ x, rule.fallback? = some x → ∃ id, x = .text id) → Drafts o v entry ⟨rule, key⟩

/-- Why an entry declares no lookup rule among some stores. -/
inductive LookupFault (o : LoadOptions) (stores : Registry) (v : Toml.Value) : EntryError → Prop
  | shape : RuleEntry.ofValue? v = none → LookupFault o stores v .shape
  | key {entry : RuleEntry} {source : String} {e : TemplateError} :
      RuleEntry.ofValue? v = some entry → entry.key = some source →
      Template.parse source = .error e → LookupFault o stores v (.template e)
  | test {entry : RuleEntry} {key : Option Template} {err : EntryError} :
      RuleEntry.ofValue? v = some entry → buildKey entry.key = .ok key →
      TestFault o.sizeLimit entry.test err → LookupFault o stores v err
  | fallback {entry : RuleEntry} {key : Option Template} {rule : Rule} {x : Value} :
      RuleEntry.ofValue? v = some entry → buildKey entry.key = .ok key →
      Rule.ofTest o.sizeLimit entry.test = .ok rule → rule.fallback? = some x → x.text? = none →
      LookupFault o stores v (.invalidRule (.fallbackNamesNoStore x))
  | store {entry : RuleEntry} {r : LookupRule} {before after : List String} {id : String} :
      Drafts o v entry r → r.staticStores = before ++ id :: after →
      (∀ other ∈ before, stores.contains other) → stores.contains id = false →
      LookupFault o stores v (.unknownStore id)
  | expect {entry : RuleEntry} {r : LookupRule} {err : EntryError} : Drafts o v entry r →
      (∀ id ∈ r.staticStores, stores.contains id) → ExpectFault entry err →
      LookupFault o stores v err

/-- Why an entry is refused in its part of a document, among the stores that are not. -/
def Refused (o : LoadOptions) (stores : Registry) : DocumentSection → Toml.Value → EntryError → Prop
  | .store, v, err => StoreFault v err
  | .eval, v, err => EvalFault o v err
  | .lookup, v, err => LookupFault o stores v err

variable {o : LoadOptions} {v : Toml.Value} {err : EntryError} {entry : RuleEntry}

theorem ofSource_eq_error_iff {source : String} :
    Template.ofSource source = .error err ↔
      ∃ e, Template.parse source = .error e ∧ err = .template e := by
  rw [Template.ofSource]
  cases Template.parse source <;> simp [Except.mapError, eq_comm]

theorem ofTest_eq_error_iff {sizeLimit : Nat} {test : RuleTest} :
    Rule.ofTest sizeLimit test = .error err ↔ TestFault sizeLimit test err := by
  cases test with
  | template source =>
      rw [Rule.ofTest, Result.map_eq_error_iff, ofSource_eq_error_iff]
      constructor
      · rintro ⟨e, hparse, rfl⟩
        exact .template hparse
      · intro h
        cases h with
        | template hparse => exact ⟨_, hparse, rfl⟩
  | clauses cs =>
      rw [Rule.ofTest, Rule.ofClauses_eq_error_iff]
      constructor
      · exact .clauses
      · intro h
        cases h with
        | clauses hfault => exact hfault

theorem buildExpected_eq_error_iff :
    buildExpected entry = .error err ↔ ExpectFault entry err := by
  rw [buildExpected]
  cases hexpect : entry.expect with
  | none =>
      constructor
      · intro h
        cases h
      · rintro ⟨hsome, _⟩
        cases hexpect.symm.trans hsome
  | some w =>
      rw [Result.map_eq_error_iff]
      constructor
      · intro h
        by_cases hliteral : ∃ v : Value, w = v.literal
        · obtain ⟨v, rfl⟩ := hliteral
          rw [Value.ofLiteral_literal] at h
          cases h
        · push Not at hliteral
          rw [Value.ofLiteral_of_ne hliteral] at h
          cases h
          exact .literal hexpect hliteral
      · rintro ⟨hsome, hne⟩
        cases hexpect.symm.trans hsome
        exact Value.ofLiteral_of_ne hne

theorem create_eq_error_iff {id kind format : String} {values : List String} {e : StoreError} :
    Store.create id kind format values = .error e ↔
      ¬ (kind = "memory" ∧ format = "list") ∧ e = .unsupported kind format := by
  rw [Store.create, StoreKind.named, StoreFormat.named, StoreKind.name, StoreFormat.name]
  by_cases hkind : kind = "memory" <;> by_cases hformat : format = "list" <;>
    simp [hkind, hformat, eq_comm]

theorem buildStore_eq_error_iff {id : String} :
    buildStore o id v = .error err ↔ StoreFault v err := by
  rw [buildStore]
  cases hentry : StoreEntry.ofValue? v with
  | none =>
      constructor
      · intro h
        cases h
        exact .shape hentry
      · intro h
        cases h with
        | shape _ => rfl
        | unsupported hsome _ => cases hentry.symm.trans hsome
  | some entry =>
      dsimp only
      cases hcreate : Store.create id entry.kind entry.format entry.values with
      | error e =>
          obtain ⟨hne, rfl⟩ := create_eq_error_iff.mp hcreate
          constructor
          · intro h
            cases h
            exact .unsupported hentry hne
          · intro h
            cases h with
            | shape hnone => cases hentry.symm.trans hnone
            | unsupported hsome _ =>
                cases hentry.symm.trans hsome
                rfl
      | ok s =>
          constructor
          · intro h
            cases h
          · intro h
            cases h with
            | shape hnone => cases hentry.symm.trans hnone
            | unsupported hsome hne =>
                cases hentry.symm.trans hsome
                cases hcreate.symm.trans (create_eq_error_iff.mpr ⟨hne, rfl⟩)

theorem buildEval_of_entry (hentry : RuleEntry.ofValue? v = some entry) (hkey : entry.key = none) :
    buildEval o v = (Rule.ofTest o.sizeLimit entry.test >>= fun rule =>
      (buildExpected entry).map fun expected => (rule, expected)) := by
  rw [buildEval, hentry]
  simp only [hkey, Option.isSome_none, Bool.false_eq_true, if_false]
  cases Rule.ofTest o.sizeLimit entry.test with
  | error err => rfl
  | ok rule => cases buildExpected entry <;> rfl

theorem buildEval_eq_error_iff : buildEval o v = .error err ↔ EvalFault o v err := by
  constructor
  · intro h
    cases hentry : RuleEntry.ofValue? v with
    | none =>
        rw [buildEval, hentry] at h
        cases h
        exact .shape hentry
    | some entry =>
        cases hkey : entry.key with
        | some source =>
            have hsome : entry.key ≠ none := by simp [hkey]
            rw [buildEval, hentry] at h
            simp only [hkey, Option.isSome_some, if_true] at h
            cases h
            exact .key hentry hsome
        | none =>
            rw [buildEval_of_entry hentry hkey] at h
            cases htest : Rule.ofTest o.sizeLimit entry.test with
            | error err' =>
                rw [htest] at h
                cases h
                exact .test hentry hkey (ofTest_eq_error_iff.mp htest)
            | ok rule =>
                rw [htest, Result.ok_bind, Result.map_eq_error_iff] at h
                exact .expect hentry hkey htest (buildExpected_eq_error_iff.mp h)
  · intro h
    cases h with
    | shape hnone => rw [buildEval, hnone]
    | key hentry hkey =>
        obtain ⟨source, hsource⟩ := Option.ne_none_iff_exists'.mp hkey
        rw [buildEval, hentry]
        simp only [hsource, Option.isSome_some, if_true]
    | test hentry hkey htest =>
        rw [buildEval_of_entry hentry hkey, ofTest_eq_error_iff.mpr htest]
        rfl
    | expect hentry hkey htest hexpect =>
        rw [buildEval_of_entry hentry hkey, htest, Result.ok_bind,
          buildExpected_eq_error_iff.mpr hexpect]
        rfl

theorem make_cases (rule : Rule) (key : Option Template) :
    ((∀ x, rule.fallback? = some x → ∃ id, x = .text id) ∧
        LookupRule.make rule key = .ok ⟨rule, key⟩) ∨
      ∃ x, rule.fallback? = some x ∧ x.text? = none ∧
        LookupRule.make rule key = .error (.invalidRule (.fallbackNamesNoStore x)) := by
  rw [LookupRule.make]
  cases hfallback : rule.fallback? with
  | none =>
      refine .inl ⟨?_, rfl⟩
      intro x hx
      cases hx
  | some x =>
      cases x with
      | text id =>
          refine .inl ⟨?_, rfl⟩
          intro x hx
          cases hx
          exact ⟨id, rfl⟩
      | integer n => exact .inr ⟨_, rfl, rfl, rfl⟩
      | bool b => exact .inr ⟨_, rfl, rfl, rfl⟩

theorem undeclared?_eq_some_iff {stores : Registry} {r : LookupRule} {id : String} :
    undeclared? stores r = some id ↔ ∃ before after, r.staticStores = before ++ id :: after ∧
      (∀ other ∈ before, stores.contains other) ∧ stores.contains id = false := by
  rw [undeclared?, List.find?_eq_some_iff_append]
  constructor
  · rintro ⟨hid, before, after, hsplit, hbefore⟩
    refine ⟨before, after, hsplit, ?_, ?_⟩
    · intro other hother
      simpa using hbefore other hother
    · simpa using hid
  · rintro ⟨before, after, hsplit, hbefore, hid⟩
    refine ⟨by simp [hid], before, after, hsplit, ?_⟩
    intro other hother
    simp [hbefore other hother]

theorem undeclared?_eq_none_iff {stores : Registry} {r : LookupRule} :
    undeclared? stores r = none ↔ ∀ id ∈ r.staticStores, stores.contains id := by
  rw [undeclared?, List.find?_eq_none]
  simp

variable {stores : Registry}

theorem buildLookup_of_entry (hentry : RuleEntry.ofValue? v = some entry) :
    buildLookup o stores v = (buildKey entry.key >>= fun key =>
      Rule.ofTest o.sizeLimit entry.test >>= fun rule =>
      LookupRule.make rule key >>= fun r =>
      match undeclared? stores r with
      | some id => .error (.unknownStore id)
      | none => (buildExpected entry).map fun expected => (r, expected)) := by
  rw [buildLookup, hentry]
  dsimp only
  cases buildKey entry.key with
  | error err => rfl
  | ok key =>
      cases Rule.ofTest o.sizeLimit entry.test with
      | error err => rfl
      | ok rule =>
          simp only [Result.ok_bind]
          cases LookupRule.make rule key with
          | error err => rfl
          | ok r =>
              simp only [Result.ok_bind]
              cases undeclared? stores r with
              | some id => rfl
              | none => cases buildExpected entry <;> rfl

theorem buildLookup_of_drafts {r : LookupRule} (h : Drafts o v entry r) :
    buildLookup o stores v =
      match undeclared? stores r with
      | some id => .error (.unknownStore id)
      | none => (buildExpected entry).map fun expected => (r, expected) := by
  obtain @⟨rule, key, hentry, hkey, htest, hfallback⟩ := h
  have hmake : LookupRule.make rule key = .ok ⟨rule, key⟩ := by
    rcases make_cases rule key with ⟨_, hok⟩ | ⟨x, hx, hnone, _⟩
    · exact hok
    · obtain ⟨id, rfl⟩ := hfallback x hx
      cases hnone
  rw [buildLookup_of_entry hentry, hkey, Result.ok_bind, htest, Result.ok_bind, hmake,
    Result.ok_bind]

theorem buildKey_eq_error_iff {key : Option String} :
    buildKey key = .error err ↔
      ∃ source e, key = some source ∧ Template.parse source = .error e ∧ err = .template e := by
  cases key with
  | none => simp [buildKey]
  | some source => simp [buildKey, Result.map_eq_error_iff, ofSource_eq_error_iff]

theorem lookupFault_of_drafts {r : LookupRule} (h : Drafts o v entry r)
    (herr : buildLookup o stores v = .error err) : LookupFault o stores v err := by
  rw [buildLookup_of_drafts h] at herr
  cases hundeclared : undeclared? stores r with
  | some id =>
      rw [hundeclared] at herr
      cases herr
      obtain ⟨before, after, hsplit, hbefore, hid⟩ := undeclared?_eq_some_iff.mp hundeclared
      exact .store h hsplit hbefore hid
  | none =>
      rw [hundeclared] at herr
      have hexpect := buildExpected_eq_error_iff.mp (Result.map_eq_error_iff.mp herr)
      exact .expect h (undeclared?_eq_none_iff.mp hundeclared) hexpect

theorem buildLookup_eq_error_iff :
    buildLookup o stores v = .error err ↔ LookupFault o stores v err := by
  constructor
  · intro h
    cases hentry : RuleEntry.ofValue? v with
    | none =>
        rw [buildLookup, hentry] at h
        cases h
        exact .shape hentry
    | some entry =>
        have hbuild := h
        rw [buildLookup_of_entry hentry] at h
        cases hkey : buildKey entry.key with
        | error err' =>
            rw [hkey] at h
            cases h
            obtain ⟨source, e, hsource, hparse, rfl⟩ := buildKey_eq_error_iff.mp hkey
            exact .key hentry hsource hparse
        | ok key =>
            rw [hkey, Result.ok_bind] at h
            cases htest : Rule.ofTest o.sizeLimit entry.test with
            | error err' =>
                rw [htest] at h
                cases h
                exact .test hentry hkey (ofTest_eq_error_iff.mp htest)
            | ok rule =>
                rw [htest, Result.ok_bind] at h
                rcases make_cases rule key with ⟨hfallback, _⟩ | ⟨x, hx, hnone, hmake⟩
                · exact lookupFault_of_drafts (.intro hentry hkey htest hfallback) hbuild
                · rw [hmake] at h
                  cases h
                  exact .fallback hentry hkey htest hx hnone
  · intro h
    cases h with
    | shape hnone => rw [buildLookup, hnone]
    | key hentry hsource hparse =>
        have hkey := buildKey_eq_error_iff.mpr ⟨_, _, hsource, hparse, rfl⟩
        rw [buildLookup_of_entry hentry, hkey]
        rfl
    | test hentry hkey htest =>
        rw [buildLookup_of_entry hentry, hkey, Result.ok_bind, ofTest_eq_error_iff.mpr htest]
        rfl
    | @fallback _ key rule x hentry hkey htest hx hnone =>
        rw [buildLookup_of_entry hentry, hkey, Result.ok_bind, htest, Result.ok_bind]
        rcases make_cases rule key with ⟨hfallback, _⟩ | ⟨x', hx', _, hmake⟩
        · obtain ⟨id, rfl⟩ := hfallback x hx
          cases hnone
        · cases hx.symm.trans hx'
          rw [hmake]
          rfl
    | store hdrafts hsplit hbefore hid =>
        have hundeclared := undeclared?_eq_some_iff.mpr ⟨_, _, hsplit, hbefore, hid⟩
        rw [buildLookup_of_drafts hdrafts, hundeclared]
    | expect hdrafts hdeclared hexpect =>
        have hundeclared := undeclared?_eq_none_iff.mpr hdeclared
        rw [buildLookup_of_drafts hdrafts, hundeclared]
        exact Result.map_eq_error_iff.mpr (buildExpected_eq_error_iff.mpr hexpect)

/-! ## The first entry -/

/-- How many parts of a document are loaded before a part. -/
def rank : DocumentSection → Nat
  | .store => 0
  | .eval => 1
  | .lookup => 2

/-- An entry comes before another one: its part is loaded earlier, or it is in the same part and the
bytes of its name are smaller. -/
def Earlier (part : DocumentSection) (name : String) (part' : DocumentSection) (name' : String) :
    Prop :=
  rank part < rank part' ∨ part = part' ∧ Bytes.of name < Bytes.of name'

/-- The first entry of a document that is refused, and why. -/
structure FirstRefused (o : LoadOptions) (raw : RawDocument) (part : DocumentSection)
    (name : String) (err : EntryError) : Prop where
  refused : ∃ v, (name, v) ∈ raw.entries part ∧ Refused o (registered o raw) part v err
  earlier : ∀ part' name' v, (name', v) ∈ raw.entries part' → Earlier part' name' part name →
    Fits o raw part' name' v

/-- Why a text is not loaded. -/
inductive Refuses (o : LoadOptions) (text : String) : LoadError → Prop
  | parse : RawDocument.parse? text = none → Refuses o text .parse
  | envelope {raw : RawDocument} {t : Table Toml.Value} {e : EnvelopeError} :
      RawDocument.parse? text = some raw → raw.envelope = some t → Envelope.ofTable t = .error e →
      Refuses o text (.envelope e)
  | entry {raw : RawDocument} {envelope : Option Envelope} {part : DocumentSection} {name : String}
      {err : EntryError} : RawDocument.parse? text = some raw →
      readEnvelope raw.envelope = .ok envelope → o.skipInvalid = false →
      FirstRefused o raw part name err → Refuses o text (.entry part name err)

theorem head?_refused_eq_some_iff {β : Type} {build : String → Toml.Value → Except EntryError β}
    {part : DocumentSection} {entries : List (String × Toml.Value)} {s : Skipped}
    (hsorted : entries.Pairwise fun a b => a.1 < b.1) :
    (refused build part entries).head? = some s ↔
      s.part = part ∧ (∃ v, (s.name, v) ∈ entries ∧ build s.name v = .error s.reason) ∧
        ∀ name v, (name, v) ∈ entries → name < s.name → ∃ b, build name v = .ok b := by
  induction entries with
  | nil => simp [refused]
  | cons entry rest ih =>
      obtain ⟨first, w⟩ := entry
      obtain ⟨hfirst, hrest⟩ := List.pairwise_cons.mp hsorted
      cases hbuild : build first w with
      | ok b =>
          have hsame : refused build part ((first, w) :: rest) = refused build part rest := by
            simp [refused, hbuild]
          rw [hsame, ih hrest]
          refine and_congr_right fun _ => and_congr ?_ ?_
          · constructor
            · rintro ⟨v, hmem, herr⟩
              exact ⟨v, List.mem_cons_of_mem _ hmem, herr⟩
            · rintro ⟨v, hmem, herr⟩
              rcases List.mem_cons.mp hmem with heq | hmem
              · cases heq
                cases hbuild.symm.trans herr
              · exact ⟨v, hmem, herr⟩
          · constructor
            · intro h name v hmem hlt
              rcases List.mem_cons.mp hmem with heq | hmem
              · cases heq
                exact ⟨b, hbuild⟩
              · exact h name v hmem hlt
            · intro h name v hmem hlt
              exact h name v (List.mem_cons_of_mem _ hmem) hlt
      | error err =>
          have hhead : (refused build part ((first, w) :: rest)).head? =
              some ⟨part, first, err⟩ := by
            simp [refused, hbuild]
          rw [hhead]
          constructor
          · intro h
            cases h
            refine ⟨rfl, ⟨w, List.mem_cons_self, hbuild⟩, ?_⟩
            intro name v hmem hlt
            rcases List.mem_cons.mp hmem with heq | hmem
            · cases heq
              exact absurd hlt (String.lt_irrefl _)
            · exact absurd (String.lt_trans hlt (hfirst _ hmem)) (String.lt_irrefl _)
          · rintro ⟨hpart, ⟨v, hmem, herr⟩, hearlier⟩
            rcases List.mem_cons.mp hmem with heq | hmem
            · obtain ⟨hname, rfl⟩ := Prod.mk.inj heq
              rw [hname, hbuild] at herr
              cases herr
              rw [← hpart, ← hname]
            · obtain ⟨b, hb⟩ := hearlier first w List.mem_cons_self (hfirst _ hmem)
              cases hbuild.symm.trans hb

variable {raw : RawDocument} {part : DocumentSection} {name : String}

/-- The entries of a part that are refused. -/
def refusals (o : LoadOptions) (raw : RawDocument) : DocumentSection → List Skipped
  | .store => refused (buildStore o) .store raw.stores.entries
  | .eval => refused (fun _ => buildEval o) .eval raw.evals.entries
  | .lookup => refused (fun _ => buildLookup o (registered o raw)) .lookup raw.lookups.entries

theorem misfits_eq_append :
    misfits o raw = refusals o raw .store ++ (refusals o raw .eval ++ refusals o raw .lookup) :=
  List.append_assoc _ _ _

theorem refusals_eq_nil_iff :
    refusals o raw part = [] ↔ ∀ name v, (name, v) ∈ raw.entries part → Fits o raw part name v := by
  cases part <;> simp only [refusals, refused_eq_nil_iff] <;> rfl

theorem head?_refusals_eq_some_iff {s : Skipped} :
    (refusals o raw part).head? = some s ↔
      s.part = part ∧
        (∃ v, (s.name, v) ∈ raw.entries part ∧ Refused o (registered o raw) part v s.reason) ∧
        ∀ name v, (name, v) ∈ raw.entries part → name < s.name → Fits o raw part name v := by
  cases part with
  | store =>
      simp only [refusals, head?_refused_eq_some_iff raw.stores.sorted, buildStore_eq_error_iff]
      rfl
  | eval =>
      simp only [refusals, head?_refused_eq_some_iff raw.evals.sorted, buildEval_eq_error_iff]
      rfl
  | lookup =>
      simp only [refusals, head?_refused_eq_some_iff raw.lookups.sorted, buildLookup_eq_error_iff]
      rfl

theorem firstRefused_of_head? {s : Skipped} (h : (refusals o raw part).head? = some s)
    (hbefore : ∀ part', rank part' < rank part → refusals o raw part' = []) :
    FirstRefused o raw s.part s.name s.reason := by
  obtain ⟨rfl, hrefused, hearlier⟩ := head?_refusals_eq_some_iff.mp h
  refine ⟨hrefused, ?_⟩
  rintro part' name' v hmem (hrank | ⟨rfl, hname⟩)
  · exact refusals_eq_nil_iff.mp (hbefore part' hrank) name' v hmem
  · exact hearlier name' v hmem (Bytes.of_lt_iff.mp hname)

theorem head?_misfits_eq_some_iff {s : Skipped} :
    (misfits o raw).head? = some s ↔ FirstRefused o raw s.part s.name s.reason := by
  rw [misfits_eq_append]
  constructor
  · intro h
    cases hstores : refusals o raw .store with
    | cons first rest =>
        rw [hstores] at h
        have hhead : (refusals o raw .store).head? = some s := by
          rw [hstores]
          exact h
        refine firstRefused_of_head? hhead ?_
        intro part' hrank
        cases hrank
    | nil =>
        rw [hstores, List.nil_append] at h
        cases hevals : refusals o raw .eval with
        | cons first rest =>
            rw [hevals] at h
            have hhead : (refusals o raw .eval).head? = some s := by
              rw [hevals]
              exact h
            refine firstRefused_of_head? hhead ?_
            intro part' hrank
            cases part' with
            | store => exact hstores
            | eval => exact absurd hrank (Nat.lt_irrefl _)
            | lookup => exact absurd hrank (by decide)
        | nil =>
            rw [hevals, List.nil_append] at h
            refine firstRefused_of_head? h ?_
            intro part' hrank
            cases part' with
            | store => exact hstores
            | eval => exact hevals
            | lookup => exact absurd hrank (Nat.lt_irrefl _)
  · rintro ⟨hrefused, hearlier⟩
    have hnil : ∀ part', rank part' < rank s.part → refusals o raw part' = [] := by
      intro part' hrank
      rw [refusals_eq_nil_iff]
      intro name v hmem
      exact hearlier part' name v hmem (.inl hrank)
    have hhead : (refusals o raw s.part).head? = some s := by
      refine head?_refusals_eq_some_iff.mpr ⟨rfl, hrefused, ?_⟩
      intro name v hmem hlt
      exact hearlier s.part name v hmem (.inr ⟨rfl, Bytes.of_lt_iff.mpr hlt⟩)
    rw [List.head?_append, List.head?_append]
    cases hpart : s.part with
    | store =>
        rw [hpart] at hhead
        rw [hhead]
        rfl
    | eval =>
        rw [hpart] at hhead hnil
        rw [hnil .store (by decide), hhead]
        rfl
    | lookup =>
        rw [hpart] at hhead hnil
        rw [hnil .store (by decide), hnil .eval (by decide), hhead]
        rfl

theorem settle_eq_error_iff {skip : Bool} {d : RuleDocument} {bad : List Skipped}
    {err : LoadError} :
    settle skip d bad = .error err ↔
      skip = false ∧ ∃ s, bad.head? = some s ∧ err = .entry s.part s.name s.reason := by
  cases skip with
  | true => simp
  | false =>
      cases bad with
      | nil => simp
      | cons s rest => simp [settle, eq_comm]

theorem readEnvelope_eq_error_iff {t? : Option (Table Toml.Value)} {err : LoadError} :
    readEnvelope t? = .error err ↔
      ∃ t e, t? = some t ∧ Envelope.ofTable t = .error e ∧ err = .envelope e := by
  cases t? with
  | none => simp [readEnvelope]
  | some t =>
      rw [readEnvelope]
      cases henvelope : Envelope.ofTable t <;> simp [henvelope, eq_comm]

theorem ofRaw_eq_error_iff {err : LoadError} :
    ofRaw o raw = .error err ↔
      (∃ t e, raw.envelope = some t ∧ Envelope.ofTable t = .error e ∧ err = .envelope e) ∨
        ∃ (envelope : Option Envelope) (s : Skipped), readEnvelope raw.envelope = .ok envelope ∧
          o.skipInvalid = false ∧ FirstRefused o raw s.part s.name s.reason ∧
          err = .entry s.part s.name s.reason := by
  rw [ofRaw_eq_settle]
  cases henvelope : readEnvelope raw.envelope with
  | error err' =>
      have hread := readEnvelope_eq_error_iff.mp henvelope
      constructor
      · intro h
        cases h
        exact .inl hread
      · rintro (hread' | ⟨_, _, hok, _⟩)
        · cases henvelope.symm.trans (readEnvelope_eq_error_iff.mpr hread')
          rfl
        · cases hok
  | ok envelope =>
      rw [Result.ok_bind, settle_eq_error_iff]
      constructor
      · rintro ⟨hskip, s, hs, rfl⟩
        exact .inr ⟨envelope, s, rfl, hskip, head?_misfits_eq_some_iff.mp hs, rfl⟩
      · rintro (hread | ⟨_, s, _, hskip, hfirst, rfl⟩)
        · cases henvelope.symm.trans (readEnvelope_eq_error_iff.mpr hread)
        · exact ⟨hskip, s, head?_misfits_eq_some_iff.mpr hfirst, rfl⟩

theorem parse_eq_error_iff {text : String} {err : LoadError} :
    parse o text = .error err ↔ Refuses o text err := by
  rw [parse, Result.map_eq_error_iff, load]
  cases hraw : RawDocument.parse? text with
  | none =>
      constructor
      · intro h
        cases h
        exact .parse hraw
      · intro h
        cases h with
        | parse _ => rfl
        | envelope hsome _ _ => cases hraw.symm.trans hsome
        | entry hsome _ _ _ => cases hraw.symm.trans hsome
  | some raw =>
      dsimp only
      rw [ofRaw_eq_error_iff]
      constructor
      · rintro (⟨t, e, ht, he, rfl⟩ | ⟨envelope, s, henvelope, hskip, hfirst, rfl⟩)
        · exact .envelope hraw ht he
        · exact .entry hraw henvelope hskip hfirst
      · intro h
        cases h with
        | parse hnone => cases hraw.symm.trans hnone
        | envelope hsome ht he =>
            cases hraw.symm.trans hsome
            exact .inl ⟨_, _, ht, he, rfl⟩
        | @entry _ envelope part name source hsome henvelope hskip hfirst =>
            cases hraw.symm.trans hsome
            exact .inr ⟨envelope, ⟨part, name, source⟩, henvelope, hskip, hfirst, rfl⟩

/-! ## Errors about stores -/

/-- Whether what is wrong with an entry has to do with stores. -/
def aboutStores : EntryError → Bool
  | .unknownStore _ => true
  | .store _ => true
  | _ => false

theorem aboutStores_of_clauses {sizeLimit : Nat} {cs : List Clause}
    (h : Clause.Fault sizeLimit cs err) : aboutStores err = false := by
  cases h with
  | afterElse _ _ => rfl
  | missingElse _ => rfl
  | clause _ _ hoffends =>
      cases hoffends with
      | operator _ _ hincomparable => cases hincomparable <;> rfl
      | _ => rfl

theorem aboutStores_of_test {sizeLimit : Nat} {test : RuleTest} (h : TestFault sizeLimit test err) :
    aboutStores err = false := by
  cases h with
  | template _ => rfl
  | clauses hfault => exact aboutStores_of_clauses hfault

theorem aboutStores_of_eval (h : EvalFault o v err) : aboutStores err = false := by
  cases h with
  | shape _ => rfl
  | key _ _ => rfl
  | test _ _ htest => exact aboutStores_of_test htest
  | expect _ _ _ hexpect =>
      cases hexpect
      rfl

/-- All that a lookup rule can have to do with stores is that it names one that is not there. -/
theorem unknown_of_aboutStores (h : LookupFault o stores v err) (habout : aboutStores err) :
    ∃ entry r id, err = .unknownStore id ∧ Drafts o v entry r ∧ id ∈ r.staticStores ∧
      stores.contains id = false := by
  cases h with
  | shape _ => cases habout
  | key _ _ _ => cases habout
  | test _ _ htest =>
      rw [aboutStores_of_test htest] at habout
      cases habout
  | fallback _ _ _ _ _ => cases habout
  | @store entry r before after id hdrafts hsplit _ hid =>
      refine ⟨entry, r, id, rfl, hdrafts, ?_, hid⟩
      rw [hsplit]
      exact List.mem_append_right before List.mem_cons_self
  | expect _ _ hexpect =>
      cases hexpect
      cases habout

/-! ## Registering stores -/

/-- A store that is built can be registered beside those of the entries before it. -/
theorem exists_insert_of_addStores {envelope : Option Envelope} {id : String} {s : Store}
    {before after : List (String × Toml.Value)} {d : RuleDocument} {skipped : List Skipped}
    (hsplit : raw.entries .store = before ++ (id, v) :: after)
    (hadd : addStores o (start envelope) before = .ok (d, skipped))
    (hbuild : buildStore o id v = .ok s) : ∃ r, d.rules.stores.insert s = .ok r := by
  have hsorted : (before ++ (id, v) :: after).Pairwise fun a b => a.1 < b.1 :=
    hsplit ▸ raw.stores.sorted
  obtain ⟨hbefore, _, hlt⟩ := List.pairwise_append.mp hsorted
  have hd : d = ofParts envelope (built (buildStore o) before) [] [] :=
    eq_of_settle ((addStores_eq_settle hbefore).symm.trans hadd)
  have hnames : ∀ e ∈ built (buildStore o) before, e.1 < id := by
    rintro ⟨name, b⟩ hmem
    obtain ⟨w, hw, _⟩ := mem_built_iff.mp hmem
    exact hlt _ hw _ List.mem_cons_self
  have hstore : d.addStore s =
      .ok (ofParts envelope (built (buildStore o) before ++ [(id, s)]) [] []) := by
    rw [hd, addStore_ofParts hnames hbuild]
  rw [addStore] at hstore
  cases hinsert : d.rules.stores.insert s with
  | ok r => exact ⟨r, rfl⟩
  | error e =>
      rw [hinsert] at hstore
      cases hstore

/-! ## What a load reports -/

/-- Which errors the load of a text can give, and when.  What is wrong with an entry is never that
another entry or an envelope is bad: `EntryError` has nothing of the kind. -/
structure Refusals (o : LoadOptions) (text : String) : Prop where
  reported : ∀ err, parse o text = .error err ↔ Refuses o text err
  /-- If bad entries are left out, none is reported. -/
  skipping : o.skipInvalid = true →
    ∀ part name source, parse o text ≠ .error (.entry part name source)
  /-- The error of a store is about its type and format, and the name of the store is never
  taken. -/
  store : ∀ part name e, parse o text = .error (.entry part name (.store e)) →
    part = .store ∧ ∃ kind format, e = .unsupported kind format
  /-- A store that is not declared is one that a lookup rule names whatever the envelope. -/
  unknownStore : ∀ part name id, parse o text = .error (.entry part name (.unknownStore id)) →
    part = .lookup ∧ ∃ raw v entry r, RawDocument.parse? text = some raw ∧
      (name, v) ∈ raw.entries .lookup ∧ Drafts o v entry r ∧ id ∈ r.staticStores ∧
      (registered o raw).contains id = false
  /-- A store that is built is registered, whatever stores were before. -/
  registers : ∀ raw envelope before id v after d skipped s, RawDocument.parse? text = some raw →
    readEnvelope raw.envelope = .ok envelope →
    raw.entries .store = before ++ (id, v) :: after →
    addStores o (start envelope) before = .ok (d, skipped) →
    buildStore o id v = .ok s → ∃ r, d.rules.stores.insert s = .ok r

theorem refused_of_parse {text : String} {source : EntryError}
    (h : parse o text = .error (.entry part name source)) :
    o.skipInvalid = false ∧ ∃ raw v, RawDocument.parse? text = some raw ∧
      (name, v) ∈ raw.entries part ∧ Refused o (registered o raw) part v source := by
  cases parse_eq_error_iff.mp h with
  | entry hraw _ hskip hfirst =>
      obtain ⟨⟨v, hmem, hrefused⟩, _⟩ := hfirst
      exact ⟨hskip, _, v, hraw, hmem, hrefused⟩

theorem refusals_of_load (o : LoadOptions) (text : String) : Refusals o text := by
  refine ⟨fun err => parse_eq_error_iff, ?skipping, ?store, ?unknownStore, ?registers⟩
  case skipping =>
    intro hskip part name source h
    obtain ⟨hstrict, _⟩ := refused_of_parse h
    cases hskip.symm.trans hstrict
  case store =>
    intro part name e h
    obtain ⟨_, raw, v, _, _, hrefused⟩ := refused_of_parse h
    cases part with
    | store =>
        cases hrefused with
        | unsupported _ _ => exact ⟨rfl, _, _, rfl⟩
    | eval => cases aboutStores_of_eval hrefused
    | lookup =>
        obtain ⟨_, _, _, hunknown, _⟩ := unknown_of_aboutStores hrefused rfl
        cases hunknown
  case unknownStore =>
    intro part name id h
    obtain ⟨_, raw, v, hraw, hmem, hrefused⟩ := refused_of_parse h
    cases part with
    | store => cases hrefused
    | eval => cases aboutStores_of_eval hrefused
    | lookup =>
        obtain ⟨entry, r, _, hid, hdrafts, hstatic, hfree⟩ := unknown_of_aboutStores hrefused rfl
        cases hid
        exact ⟨rfl, raw, v, entry, r, hraw, hmem, hdrafts, hstatic, hfree⟩
  case registers =>
    intro raw envelope before id v after d skipped s _ _ hsplit hadd hbuild
    exact exists_insert_of_addStores hsplit hadd hbuild

-- The bad store is reported and not the rule above it, which names the store.
example : parse .default "[maybe-eval]\nask = [\"old\"]\n[store]\nold = [\"sql\", \"list\"]\n" =
    .error (.entry .store "old" (.store (.unsupported "sql" "list"))) := by
  cbv

end RuleDocument
end EnvelopeRules
