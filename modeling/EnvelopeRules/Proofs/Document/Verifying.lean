import EnvelopeRules.Proofs.Document.Skipping
import EnvelopeRules.Proofs.Engine.Failures
import EnvelopeRules.Proofs.Text.Bytes

/-!
# Verifying a document

A loaded document expects something of each of its rules whose entry says so, and of nothing else.
Checking all expectations together comes to checking each of them alone: neither the others nor what
the caches hold has a say.
-/

namespace EnvelopeRules

/-! ## Reports -/

theorem Verification.passed_iff {v : Verification} : v.passed ↔ v.actual = .ok v.expected := by
  rw [passed]
  cases v.actual with
  | ok actual => simp
  | error err => simp

/-- The expectation that was checked. -/
def Verification.expectation (v : Verification) : Expectation := ⟨v.kind, v.name, v.expected⟩

namespace Report

variable {r : Report}

theorem failures_eq_nil_iff : r.failures = [] ↔ ∀ v ∈ r.results, v.actual = .ok v.expected := by
  simp only [failures, List.filter_eq_nil_iff, Bool.not_eq_true', Bool.not_eq_false,
    Verification.passed_iff]

theorem passed_iff : r.passed ↔ r.failures = [] := by
  rw [failures_eq_nil_iff, passed, List.all_eq_true]
  simp only [Verification.passed_iff]

end Report

/-- The elements at some positions, in the order of the positions: any permutation of a list, and
any part of it. -/
def pick {α : Type} (positions : List Nat) (l : List α) : List α := positions.filterMap (l[·]?)

theorem pick_map {α β : Type} (f : α → β) (positions : List Nat) (l : List α) :
    pick positions (l.map f) = (pick positions l).map f := by
  simp only [pick, List.getElem?_map, List.map_filterMap]

theorem Engine.verify_results {en : Engine} {b : Rulebook} (h : en.rules.Serves b) (e : Envelope)
    (xs : List Expectation) : (en.verify xs e).1.results = xs.map (b.check e) :=
  (verifyAll_of_serves h e xs).1

/-! ## Expectations of a document -/

/-- The part of a document in which rules of a kind are declared. -/
def RuleKind.part : RuleKind → DocumentSection
  | .eval => .eval
  | .lookup => .lookup

/-- The order of expectations: rules for direct answers first, those of a kind by the bytes of their
names. -/
def Expectation.Before (x y : Expectation) : Prop :=
  x.kind = .eval ∧ y.kind = .lookup ∨ x.kind = y.kind ∧ Bytes.of x.name < Bytes.of y.name

/-- Whether the entry of a rule says that the rule is expected to give a literal. -/
def RawDocument.Expects (raw : RawDocument) (kind : RuleKind) (name : String)
    (literal : Toml.Value) : Prop :=
  ∃ v entry, (name, v) ∈ raw.entries kind.part ∧ RuleEntry.ofValue? v = some entry ∧
    entry.expect = some literal

namespace RuleDocument

variable {o : LoadOptions} {raw : RawDocument} {envelope : Option Envelope}

theorem buildExpected_eq_some_iff {entry : RuleEntry} {value : Value} :
    buildExpected entry = .ok (some value) ↔
      ∃ literal, entry.expect = some literal ∧ Value.ofLiteral literal = .ok value := by
  rw [buildExpected]
  cases entry.expect with
  | none => simp
  | some literal => simp [Result.map_eq_ok_iff]

theorem entry_of_buildEval {v : Toml.Value} {rule : Rule} {x : Option Value}
    (h : buildEval o v = .ok (rule, x)) :
    ∃ entry, RuleEntry.ofValue? v = some entry ∧ buildExpected entry = .ok x := by
  rw [buildEval] at h
  split at h
  · cases h
  · rename_i entry hentry
    split at h
    · cases h
    · obtain ⟨_, _, h⟩ := Result.bind_eq_ok_iff.mp h
      obtain ⟨x', hx', h⟩ := Result.bind_eq_ok_iff.mp h
      cases h
      exact ⟨entry, hentry, hx'⟩

theorem entry_of_buildLookup {stores : Registry} {v : Toml.Value} {rule : LookupRule}
    {x : Option Value} (h : buildLookup o stores v = .ok (rule, x)) :
    ∃ entry, RuleEntry.ofValue? v = some entry ∧ buildExpected entry = .ok x := by
  rw [buildLookup] at h
  split at h
  · cases h
  · rename_i entry hentry
    obtain ⟨_, _, h⟩ := Result.bind_eq_ok_iff.mp h
    obtain ⟨_, _, h⟩ := Result.bind_eq_ok_iff.mp h
    obtain ⟨_, _, h⟩ := Result.bind_eq_ok_iff.mp h
    split at h
    · cases h
    · obtain ⟨x', hx', h⟩ := Result.bind_eq_ok_iff.mp h
      cases h
      exact ⟨entry, hentry, hx'⟩

/-- A rule of the document is expected to give what its own entry says. -/
theorem entry_of_has {kind : RuleKind} {name : String} {v : Toml.Value}
    (hmem : (name, v) ∈ raw.entries kind.part) (h : (fitting o raw envelope).has kind.part name) :
    ∃ entry x, RuleEntry.ofValue? v = some entry ∧ buildExpected entry = .ok x ∧
      ∀ value, ⟨kind, name, value⟩ ∈ (fitting o raw envelope).expectations ↔ x = some value := by
  have hpresent : Present o (fitting o raw envelope) kind.part name v :=
    present_of_fits hmem (fits_of_has hmem h)
  cases kind with
  | eval =>
      obtain ⟨rule, x, hbuild, _, hexpected⟩ := hpresent
      obtain ⟨entry, hentry, hx⟩ := entry_of_buildEval hbuild
      exact ⟨entry, x, hentry, hx, hexpected⟩
  | lookup =>
      obtain ⟨rule, x, hbuild, _, hexpected⟩ := hpresent
      obtain ⟨entry, hentry, hx⟩ := entry_of_buildLookup hbuild
      exact ⟨entry, x, hentry, hx, hexpected⟩

theorem built_of_mem_expected {ρ : Type} {kind : RuleKind} {x : Expectation}
    {build : String → Toml.Value → Except EntryError (ρ × Option Value)}
    {entries : List (String × Toml.Value)} (h : x ∈ expected kind (built build entries)) :
    x.kind = kind ∧ ∃ v r, (x.name, v) ∈ entries ∧ build x.name v = .ok r := by
  obtain ⟨hkind, rule, hbuilt⟩ := mem_expected_iff.mp h
  obtain ⟨v, hmem, hbuild⟩ := mem_built_iff.mp hbuilt
  exact ⟨hkind, v, _, hmem, hbuild⟩

/-- Nothing is expected of a rule that the document does not have. -/
theorem has_of_mem_expectations {x : Expectation} (h : x ∈ (fitting o raw envelope).expectations) :
    (fitting o raw envelope).has x.kind.part x.name := by
  rw [has_fitting_iff]
  rcases List.mem_append.mp h with h | h
  · obtain ⟨hkind, v, r, hmem, hbuild⟩ := built_of_mem_expected h
    rw [hkind]
    exact ⟨v, hmem, r, hbuild⟩
  · obtain ⟨hkind, v, r, hmem, hbuild⟩ := built_of_mem_expected h
    rw [hkind]
    exact ⟨v, hmem, r, hbuild⟩

theorem expects_of_mem_expectations {x : Expectation}
    (h : x ∈ (fitting o raw envelope).expectations) :
    ∃ literal, raw.Expects x.kind x.name literal ∧ Value.ofLiteral literal = .ok x.expected := by
  have hhas := has_of_mem_expectations h
  obtain ⟨v, hmem, _⟩ := has_fitting_iff.mp hhas
  obtain ⟨entry, given, hentry, hgiven, hexpected⟩ := entry_of_has hmem hhas
  cases (hexpected x.expected).mp h
  obtain ⟨literal, hliteral, hvalue⟩ := buildExpected_eq_some_iff.mp hgiven
  exact ⟨literal, ⟨v, entry, hmem, hentry, hliteral⟩, hvalue⟩

theorem mem_expectations_of_expects {kind : RuleKind} {name : String} {literal : Toml.Value}
    (hhas : (fitting o raw envelope).has kind.part name) (h : raw.Expects kind name literal) :
    ∃ value, Value.ofLiteral literal = .ok value ∧
      ⟨kind, name, value⟩ ∈ (fitting o raw envelope).expectations := by
  obtain ⟨v, entry, hmem, hentry, hliteral⟩ := h
  obtain ⟨entry', given, hentry', hgiven, hexpected⟩ := entry_of_has hmem hhas
  cases hentry.symm.trans hentry'
  -- The entry was built, so that its literal has a value.
  rw [buildExpected, hliteral] at hgiven
  obtain ⟨value, hvalue, rfl⟩ := Result.map_eq_ok_iff.mp hgiven
  exact ⟨value, hvalue, (hexpected value).mpr rfl⟩

theorem pairwise_expected {ρ : Type} (kind : RuleKind) {rules : List (String × ρ × Option Value)}
    (h : rules.Pairwise fun a b => a.1 < b.1) :
    (expected kind rules).Pairwise Expectation.Before := by
  refine List.pairwise_filterMap.mpr (h.imp fun {a b} hlt x hx y hy => ?_)
  obtain ⟨v, _, rfl⟩ := Option.map_eq_some_iff.mp hx
  obtain ⟨w, _, rfl⟩ := Option.map_eq_some_iff.mp hy
  exact .inr ⟨rfl, Bytes.of_lt_iff.mpr hlt⟩

theorem pairwise_expectations :
    (fitting o raw envelope).expectations.Pairwise Expectation.Before := by
  refine List.pairwise_append.mpr ⟨?_, ?_, fun x hx y hy => ?_⟩
  · exact pairwise_expected .eval (pairwise_built _ raw.evals.sorted)
  · exact pairwise_expected .lookup (pairwise_built _ raw.lookups.sorted)
  · exact .inl ⟨(mem_expected_iff.mp hx).1, (mem_expected_iff.mp hy).1⟩

theorem eq_fitting_of_parse {text : String} {d : RuleDocument} (h : parse o text = .ok d) :
    ∃ raw envelope, RawDocument.parse? text = some raw ∧ d = fitting o raw envelope := by
  cases hraw : RawDocument.parse? text with
  | none =>
      rw [parse, load, hraw] at h
      cases h
  | some raw =>
      rw [parse_of_parse? hraw, ofRaw_eq_settle] at h
      obtain ⟨r, hr, rfl⟩ := Result.map_eq_ok_iff.mp h
      obtain ⟨envelope, _, hr⟩ := Result.bind_eq_ok_iff.mp hr
      exact ⟨raw, envelope, rfl, eq_of_settle hr⟩

end RuleDocument

/-- A rule that is there is not reported as unknown. -/
theorem Rulebook.Matches.check_ne_unknown {b : Rulebook} {d : RuleDocument}
    (h : b.Matches d.rules) {e : Envelope} {x : Expectation} (hx : d.has x.kind.part x.name)
    (n : String) : (b.check e x).actual ≠ .error (.ruleNotFound n) := by
  obtain ⟨kind, name, expected⟩ := x
  intro hunknown
  cases kind with
  | eval =>
      have hnone : d.rules.evals.find? name = none := by
        rw [h.serves.evals]
        exact (eval_unknown_iff.mp hunknown).1
      have hsome : (d.rules.evals.find? name).isSome := hx
      rw [hnone] at hsome
      cases hsome
  | lookup =>
      have hnone := (h.lookup_unknown_iff.mp hunknown).1
      have hsome : (d.rules.lookups.find? name).isSome := hx
      rw [hnone] at hsome
      cases hsome

/-! ## Verifying -/

namespace Engine

/-- What a caller may count on when an engine verifies the expectations of a document. -/
structure Verifies (en : Engine) (raw : RawDocument) (d : RuleDocument) (e : Envelope) : Prop where
  /-- The expectations are in order, with one at most for each rule. -/
  ordered : d.expectations.Pairwise Expectation.Before
  /-- Each is about a rule of the document, and its entry says so. -/
  declared : ∀ x ∈ d.expectations, d.has x.kind.part x.name ∧
    ∃ literal, raw.Expects x.kind x.name literal ∧ Value.ofLiteral literal = .ok x.expected
  /-- No rule of the document whose entry says what it is expected to give is missing. -/
  complete : ∀ kind name literal, d.has kind.part name → raw.Expects kind name literal →
    ∃ value, Value.ofLiteral literal = .ok value ∧ ⟨kind, name, value⟩ ∈ d.expectations
  results : (en.verify d.expectations e).1.results.map Verification.expectation = d.expectations
  known : ∀ v ∈ (en.verify d.expectations e).1.results, ∀ n, v.actual ≠ .error (.ruleNotFound n)
  alone : ∀ v ∈ (en.verify d.expectations e).1.results, ∀ timeout en',
    (ofRules d.rules timeout).Reaches en' → v.actual = (en'.run v.kind v.name e).1
  passed_iff : (en.verify d.expectations e).1.passed ↔
    (en.verify d.expectations e).1.failures = []
  failures_iff : (en.verify d.expectations e).1.failures = [] ↔
    ∀ v ∈ (en.verify d.expectations e).1.results, v.actual = .ok v.expected
  anyOrder : ∀ positions, (en.verify (pick positions d.expectations) e).1.results =
    pick positions (en.verify d.expectations e).1.results

/-- The expectations of a loaded document are verified one by one, in every state that an engine
with its rules reaches, under every time limit. -/
theorem verifies_of_parse {o : LoadOptions} {text : String} {d : RuleDocument}
    (h : RuleDocument.parse o text = .ok d) (timeout : Nat) {en : Engine}
    (hen : (ofRules d.rules timeout).Reaches en) (e : Envelope) :
    ∃ raw, RawDocument.parse? text = some raw ∧ en.Verifies raw d e := by
  have hchecked := RuleDocument.checked_of_parse h
  obtain ⟨members, hserves⟩ := hchecked.serves
  have hbook : Rulebook.Matches _ d.rules := ⟨hchecked, hserves⟩
  have hreached : ∀ {timeout en'}, (ofRules d.rules timeout).Reaches en' → en'.rules.Serves _ :=
    fun hen' => hen'.serves hserves
  have hresults := verify_results (hreached hen) e
  obtain ⟨raw, envelope, hraw, hd⟩ := RuleDocument.eq_fitting_of_parse h
  have hhas : ∀ x ∈ d.expectations, d.has x.kind.part x.name := by
    subst hd
    exact fun x hx => RuleDocument.has_of_mem_expectations hx
  refine ⟨raw, hraw, ?_, ?_, ?_, ?_, ?_, ?_, Report.passed_iff, Report.failures_eq_nil_iff, ?_⟩
  · subst hd
    exact RuleDocument.pairwise_expectations
  · subst hd
    exact fun x hx => ⟨hhas x hx, RuleDocument.expects_of_mem_expectations hx⟩
  · subst hd
    exact fun kind name literal => RuleDocument.mem_expectations_of_expects
  · rw [hresults, List.map_map]
    exact List.map_id _
  · intro v hv
    rw [hresults] at hv
    obtain ⟨x, hx, rfl⟩ := List.mem_map.mp hv
    exact hbook.check_ne_unknown (hhas x hx)
  · intro v hv timeout' en' hen'
    rw [hresults] at hv
    obtain ⟨x, _, rfl⟩ := List.mem_map.mp hv
    exact congrArg Verification.actual (run_of_serves (hreached hen') e x).1.symm
  · intro positions
    rw [hresults, hresults, pick_map]

/-- A rule of the same name in both modes, and one that names no store and is left out. -/
def twoModes : String :=
  "[store.mx]\ntype = \"memory\"\nformat = \"list\"\nvalues = [\"a.example\"]\n\n" ++
  "[eval.route]\ntest = \"mx\"\nexpect = \"mx\"\n\n" ++
  "[maybe-eval.route]\ntest = \"mx\"\nexpect = \"a.example\"\n\n" ++
  "[maybe-eval.lost]\ntest = \"none\"\nexpect = true\n"

def skippingCached : LoadOptions :=
  ⟨LoadOptions.defaultSizeLimit, true, some ⟨1, 60000, 60000, Nat.one_pos⟩⟩

/-- With the member in the cache, both rules give what is expected. -/
theorem verifies_twoModes :
    ∃ d raw, RuleDocument.parse skippingCached twoModes = .ok d ∧
      RawDocument.parse? twoModes = some raw ∧
      Verifies ((ofRules d.rules 0).answer .empty (.lookup "route")).2 raw d .empty ∧
      d.expectations = [⟨.eval, "route", .text "mx"⟩, ⟨.lookup, "route", .text "a.example"⟩] ∧
      ((ofRules d.rules 0).verify d.expectations .empty).1.passed := by
  have hcheck : (match RuleDocument.parse skippingCached twoModes with
    | .error _ => false
    | .ok d =>
      d.expectations = [⟨.eval, "route", .text "mx"⟩, ⟨.lookup, "route", .text "a.example"⟩] ∧
      ((ofRules d.rules 0).verify d.expectations .empty).1.passed) = true := by decide +kernel
  cases hd : RuleDocument.parse skippingCached twoModes with
  | error err =>
      rw [hd] at hcheck
      cases hcheck
  | ok d =>
      rw [hd] at hcheck
      obtain ⟨hexpectations, hpassed⟩ := of_decide_eq_true hcheck
      obtain ⟨raw, hraw, hverifies⟩ :=
        verifies_of_parse hd 0 (.call .empty (.lookup "route") .initial) .empty
      exact ⟨d, raw, rfl, hraw, hverifies, hexpectations, hpassed⟩

end Engine
end EnvelopeRules
