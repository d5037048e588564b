import EnvelopeRules.Proofs.Check.Events
import EnvelopeRules.Proofs.Document.Loaded
import EnvelopeRules.Proofs.Document.Uncached
import EnvelopeRules.Proofs.Document.Verifying
import EnvelopeRules.Proofs.Text.Splitting

/-!
# The verdict of a check

What the program finds depends on its settings only through the document that they choose, the size
that patterns may have and whether bad entries are left out.  Caches and time limits are not seen in
any answer, and logging is not seen in the verdict.
-/

namespace EnvelopeRules

/-! ## Documents that differ in their caches -/

namespace RuleDocument

/-- What an expectation's rule gives on the document's own envelope. -/
def answer (d : RuleDocument) (timeout : Nat) (x : Expectation) : Eval Value :=
  ((Engine.ofRules d.rules timeout).run x.kind x.name (d.envelope.getD .empty)).1

def Meets (d : RuleDocument) (timeout : Nat) (x : Expectation) : Prop :=
  d.answer timeout x = .ok x.expected

instance (d : RuleDocument) (timeout : Nat) (x : Expectation) : Decidable (d.Meets timeout x) :=
  inferInstanceAs (Decidable (_ = _))

/-- The expectations that are not met. -/
def unmet (d : RuleDocument) (timeout : Nat) : List Expectation :=
  d.expectations.filter fun x => ¬ d.Meets timeout x

theorem length_unmet_eq_zero_iff {d : RuleDocument} {timeout : Nat} :
    (d.unmet timeout).length = 0 ↔ ∀ x ∈ d.expectations, d.Meets timeout x := by
  rw [List.length_eq_zero_iff, unmet, List.filter_eq_nil_iff]
  simp only [decide_eq_true_eq, Decidable.not_not]

/-- Loaded documents that differ at most in the caches of their stores. -/
structure Twins (d d' : RuleDocument) : Prop where
  left : d.rules.Checked
  right : d'.rules.Checked
  uncached : d.uncached = d'.uncached

variable {o o' : LoadOptions} {text : String} {d d' : RuleDocument}

theorem twin_of_parse (ho : o.uncached = o'.uncached) (h : parse o text = .ok d) :
    ∃ d', parse o' text = .ok d' ∧ d.Twins d' := by
  have hmap : (parse o' text).map uncached = .ok d.uncached := by
    rw [← parse_uncached, ← ho, parse_uncached, h]
    rfl
  obtain ⟨d', hd', huncached⟩ := Result.map_eq_ok_iff.mp hmap
  exact ⟨d', hd', checked_of_parse h, checked_of_parse hd', huncached.symm⟩

theorem error_of_parse (ho : o.uncached = o'.uncached) {err : LoadError}
    (h : parse o text = .error err) : parse o' text = .error err := by
  have hmap : (parse o' text).map uncached = .error err := by
    rw [← parse_uncached, ← ho, parse_uncached, h]
    rfl
  exact Result.map_eq_error_iff.mp hmap

theorem Twins.expectations (h : d.Twins d') : d.expectations = d'.expectations := by
  have hsame := congrArg RuleDocument.expectations h.uncached
  exact hsame

theorem Twins.envelope (h : d.Twins d') : d.envelope = d'.envelope := by
  have hsame := congrArg RuleDocument.envelope h.uncached
  exact hsame

theorem answer_uncached (h : d.rules.Checked) (timeout timeout' : Nat) :
    d.answer timeout = d.uncached.answer timeout' := by
  funext x
  obtain ⟨members, hserves⟩ := h.serves
  have hcached : (Engine.ofRules d.rules timeout).rules.Serves _ := hserves
  have huncached : (Engine.ofRules d.uncached.rules timeout').rules.Serves _ := hserves.uncached
  have hleft := (Engine.run_of_serves hcached (d.envelope.getD .empty) x).1
  have hright := (Engine.run_of_serves huncached (d.envelope.getD .empty) x).1
  exact congrArg Verification.actual (hleft.trans hright.symm)

/-- Neither the caches nor the time limit is seen in an answer. -/
theorem Twins.answer (h : d.Twins d') (timeout timeout' : Nat) :
    d.answer timeout = d'.answer timeout' := by
  rw [answer_uncached h.left timeout 0, h.uncached, ← answer_uncached h.right timeout' 0]

theorem Twins.meets_iff (h : d.Twins d') (timeout timeout' : Nat) (x : Expectation) :
    d.Meets timeout x ↔ d'.Meets timeout' x := by
  rw [Meets, Meets, h.answer timeout timeout']

theorem Twins.unmet (h : d.Twins d') (timeout timeout' : Nat) :
    d.unmet timeout = d'.unmet timeout' := by
  simp only [RuleDocument.unmet, h.expectations, h.meets_iff timeout timeout']

end RuleDocument

namespace Check

/-! ## Reports -/

/-- The report has one result for each expectation, that of its rule alone. -/
theorem report_results {s : Settings} {d : RuleDocument} (h : d.rules.Checked) :
    (report s d).results = d.expectations.map fun x =>
      ⟨x.kind, x.name, x.expected, d.answer s.engine.timeout x⟩ := by
  obtain ⟨members, hserves⟩ := h.serves
  have hengine : (Engine.ofRules d.rules s.engine.timeout).rules.Serves _ := hserves
  refine (Engine.verify_results hengine _ _).trans (List.map_congr_left fun x _ => ?_)
  exact (Engine.run_of_serves hengine _ x).1.symm

theorem length_results {s : Settings} {d : RuleDocument} (h : d.rules.Checked) :
    (report s d).results.length = d.expectations.length := by
  rw [report_results h, List.length_map]

theorem length_failures {s : Settings} {d : RuleDocument} (h : d.rules.Checked) :
    (report s d).failures.length = (d.unmet s.engine.timeout).length := by
  rw [Report.failures, report_results h, List.filter_map, List.length_map, RuleDocument.unmet]
  refine congrArg List.length (List.filter_congr fun x _ => ?_)
  rw [Bool.eq_iff_iff, decide_eq_true_iff, Function.comp_apply, Bool.not_eq_true',
    ← Bool.not_eq_true, Verification.passed_iff]
  rfl

theorem report_of_twins {s s' : Settings} {d d' : RuleDocument} (h : d.Twins d') :
    report s d = report s' d' := by
  have hresults : (report s d).results = (report s' d').results := by
    rw [report_results h.left, report_results h.right, h.expectations,
      h.answer s.engine.timeout s'.engine.timeout]
  exact congrArg Report.mk hresults

theorem verdict_eq_none_iff {r : Report} : verdict r = none ↔ r.failures.length = 0 := by
  rw [verdict, List.length_eq_zero_iff]
  cases r.failures <;> simp

theorem verdict_eq_failed_iff {r : Report} {k n : Nat} :
    verdict r = some (.failed k n) ↔ 0 < k ∧ k = r.failures.length ∧ n = r.results.length := by
  rw [verdict]
  cases r.failures with
  | nil => simp; omega
  | cons v rest => simp; omega

end Check

/-! ## Settings that choose the same -/

/-- Whether settings name the same document and load the same of it. -/
structure Settings.Agree (s s' : Settings) : Prop where
  path : s.engine.rulesPath = s'.engine.rulesPath
  sizeLimit : s.engine.sizeLimit = s'.engine.sizeLimit
  skipInvalid : s.engine.skipInvalid = s'.engine.skipInvalid

theorem Settings.Agree.uncached {s s' : Settings} (h : s.Agree s') :
    s.engine.loadOptions.uncached = s'.engine.loadOptions.uncached := by
  rw [LoadOptions.uncached, LoadOptions.uncached, LoadOptions.mk.injEq]
  exact ⟨h.sizeLimit, h.skipInvalid, rfl⟩

namespace Check

/-- The document that a run checks, with some caches. -/
def Chooses (s : Settings) (arguments : List String) (read : String → Except ReadFailure String)
    (cache : Option CacheSettings) (d : RuleDocument) : Prop :=
  ∃ text, read (rulesPath s arguments) = .ok text ∧
    RuleDocument.parse ⟨s.engine.sizeLimit, s.engine.skipInvalid, cache⟩ text = .ok d

/-- The report of a run, if it comes to evaluate the rules. -/
def reported (s : Settings) (arguments : List String) (read : String → Except ReadFailure String) :
    Option Report :=
  match read (rulesPath s arguments) with
  | .error _ => none
  | .ok text =>
    match RuleDocument.parse s.engine.loadOptions text with
    | .error _ => none
    | .ok d => some (report s d)

section Runs

variable {s s' : Settings} {arguments : List String} {read : String → Except ReadFailure String}
  {cache cache' : Option CacheSettings} {d d' : RuleDocument}

theorem Chooses.checked (h : Chooses s arguments read cache d) : d.rules.Checked := by
  obtain ⟨text, _, hd⟩ := h
  exact RuleDocument.checked_of_parse hd

theorem Chooses.unique (h : Chooses s arguments read cache d)
    (h' : Chooses s arguments read cache d') : d = d' := by
  obtain ⟨text, hread, hd⟩ := h
  obtain ⟨text', hread', hd'⟩ := h'
  cases hread.symm.trans hread'
  exact Except.ok.inj (hd.symm.trans hd')

theorem Chooses.twin (h : Chooses s arguments read cache d) (cache' : Option CacheSettings) :
    ∃ d', Chooses s arguments read cache' d' ∧ d.Twins d' := by
  obtain ⟨text, hread, hd⟩ := h
  have ho : (LoadOptions.mk s.engine.sizeLimit s.engine.skipInvalid cache).uncached =
      (LoadOptions.mk s.engine.sizeLimit s.engine.skipInvalid cache').uncached := rfl
  obtain ⟨d', hd', htwins⟩ := RuleDocument.twin_of_parse ho hd
  exact ⟨d', ⟨text, hread, hd'⟩, htwins⟩

/-- With other caches a run chooses a twin of the document, and nothing else. -/
theorem Chooses.iff_exists (h : Chooses s arguments read cache d) (cache' : Option CacheSettings)
    {p : Prop} {P : RuleDocument → Prop} (hP : ∀ {d'}, d.Twins d' → (p ↔ P d')) :
    p ↔ ∃ d', Chooses s arguments read cache' d' ∧ P d' := by
  obtain ⟨d₁, hd₁, htwins⟩ := h.twin cache'
  constructor
  · intro hp
    exact ⟨d₁, hd₁, (hP htwins).mp hp⟩
  · rintro ⟨d', hd', hp⟩
    cases hd₁.unique hd'
    exact (hP htwins).mpr hp

theorem not_chooses (h : ∀ d, ¬ Chooses s arguments read cache d) (cache' : Option CacheSettings)
    (d : RuleDocument) : ¬ Chooses s arguments read cache' d := by
  intro hd
  obtain ⟨d', hd', _⟩ := hd.twin cache
  exact h d' hd'

/-- A run has the verdict on its document's report, or it comes to none and ends with an error of
another kind. -/
theorem runWith_cases (s : Settings) (arguments : List String)
    (read : String → Except ReadFailure String) :
    (∃ d, Chooses s arguments read s.engine.cache? d ∧
        (runWith s arguments read).2 = verdict (report s d) ∧
        reported s arguments read = some (report s d)) ∨
      (∀ d, ¬ Chooses s arguments read s.engine.cache? d) ∧
        ∃ err, (runWith s arguments read).2 = some err ∧ ∀ k n, err ≠ .failed k n := by
  rw [runWith, reported]
  cases hread : read (rulesPath s arguments) with
  | error failure =>
      refine .inr ⟨fun d hd => ?_, .unreadable failure, rfl, fun k n he => by cases he⟩
      obtain ⟨text, htext, _⟩ := hd
      cases hread.symm.trans htext
  | ok text =>
      cases hd : RuleDocument.parse s.engine.loadOptions text with
      | error err =>
          refine .inr ⟨fun d hd' => ?_, .load err, by simp only [hd], fun k n he => by cases he⟩
          obtain ⟨text', htext, hd'⟩ := hd'
          cases hread.symm.trans htext
          cases hd.symm.trans hd'
      | ok d => exact .inl ⟨d, ⟨text, hread, hd⟩, by simp only [hd], by simp only [hd]⟩

theorem succeeds_iff (cache : Option CacheSettings) (timeout : Nat) :
    (runWith s arguments read).2 = none ↔
      ∃ d, Chooses s arguments read cache d ∧ ∀ x ∈ d.expectations, d.Meets timeout x := by
  rcases runWith_cases s arguments read with ⟨d, hd, herror, _⟩ | ⟨hnone, err, herror, _⟩
  · rw [herror, verdict_eq_none_iff, length_failures hd.checked]
    refine hd.iff_exists cache fun htwins => ?_
    rw [htwins.unmet s.engine.timeout timeout, RuleDocument.length_unmet_eq_zero_iff]
  · rw [herror]
    constructor
    · intro h
      cases h
    · rintro ⟨d, hd, _⟩
      exact absurd hd (not_chooses hnone cache d)

theorem fails_iff (cache : Option CacheSettings) (timeout k n : Nat) :
    (runWith s arguments read).2 = some (.failed k n) ↔
      ∃ d, Chooses s arguments read cache d ∧
        0 < k ∧ k = (d.unmet timeout).length ∧ n = d.expectations.length := by
  rcases runWith_cases s arguments read with ⟨d, hd, herror, _⟩ | ⟨hnone, err, herror, hother⟩
  · rw [herror, verdict_eq_failed_iff, length_failures hd.checked, length_results hd.checked]
    refine hd.iff_exists cache fun htwins => ?_
    rw [htwins.unmet s.engine.timeout timeout, htwins.expectations]
  · rw [herror]
    constructor
    · intro h
      exact absurd (Option.some.inj h) (hother k n)
    · rintro ⟨d, hd, _⟩
      exact absurd hd (not_chooses hnone cache d)

theorem reported_of_chooses (h : Chooses s arguments read cache d) (timeout : Nat) :
    reported s arguments read = some
      ((Engine.ofRules d.rules timeout).verify d.expectations (d.envelope.getD .empty)).1 := by
  rcases runWith_cases s arguments read with ⟨d', hd', _, hreported⟩ | ⟨hnone, _⟩
  · obtain ⟨d₁, hd₁, htwins⟩ := hd'.twin cache
    cases hd₁.unique h
    have hsame : report s d' = report { s with engine := { s.engine with timeout } } d :=
      report_of_twins htwins
    rw [hreported, hsame]
    rfl
  · exact absurd h (not_chooses hnone cache d)

/-- Runs with settings that agree log the same results and end alike. -/
theorem runWith_of_agree (h : s.Agree s') (arguments : List String)
    (read : String → Except ReadFailure String) :
    (runWith s arguments read).2 = (runWith s' arguments read).2 ∧
      reported s arguments read = reported s' arguments read ∧
      own (runWith s arguments read).1 = own (runWith s' arguments read).1 := by
  have hpath : rulesPath s arguments = rulesPath s' arguments := by
    rw [rulesPath, rulesPath, h.path]
  rw [runWith, runWith, reported, reported, hpath]
  cases read (rulesPath s' arguments) with
  | error failure => exact ⟨rfl, rfl, rfl⟩
  | ok text =>
      have hstart : ∀ s : Settings,
          own (loading (rulesPath s' arguments) :: Trace.load s.engine.loadOptions text) =
            [loading (rulesPath s' arguments)] := by
        intro s
        rw [← List.singleton_append, own_append, own_eq_nil (inner_load _ _)]
        rfl
      cases hd : RuleDocument.parse s.engine.loadOptions text with
      | error err =>
          have hd' := RuleDocument.error_of_parse h.uncached hd
          simp only [hd, hd', hstart, and_self]
      | ok d =>
          obtain ⟨d', hd', htwins⟩ := RuleDocument.twin_of_parse h.uncached hd
          have hreport : report s d = report s' d' := report_of_twins htwins
          simp only [hd, hd', own_append, hstart, own_checkEvents, hreport, htwins.envelope,
            and_self]

end Runs

theorem run_of_load {w : Surroundings} {s : Settings}
    (hs : Settings.load w.settingsFile w.environment = .ok s) :
    (run w).error? = (runWith s w.arguments w.read).2 := by
  rw [run, hs]

theorem exitCode_eq_zero_iff {r : CheckRun} : r.exitCode = 0 ↔ r.error? = none := by
  rw [CheckRun.exitCode]
  cases r.error? <;> simp

/-- The verdict of the program, whatever it is started from. -/
theorem verdict_of_load {w : Surroundings} {s : Settings}
    (hs : Settings.load w.settingsFile w.environment = .ok s) :
    (∀ cache timeout, (run w).exitCode = 0 ↔
      ∃ d, Chooses s w.arguments w.read cache d ∧ ∀ x ∈ d.expectations, d.Meets timeout x) ∧
    (∀ cache timeout k n, (run w).error? = some (.failed k n) ↔
      ∃ d, Chooses s w.arguments w.read cache d ∧
        0 < k ∧ k = (d.unmet timeout).length ∧ n = d.expectations.length) ∧
    (∀ cache timeout d, Chooses s w.arguments w.read cache d →
      reported s w.arguments w.read = some
        ((Engine.ofRules d.rules timeout).verify d.expectations (d.envelope.getD .empty)).1) ∧
    (∀ w' s', Settings.load w'.settingsFile w'.environment = .ok s' → w'.arguments = w.arguments →
      w'.read = w.read → s.Agree s' →
      (run w').exitCode = (run w).exitCode ∧ (run w').error? = (run w).error? ∧
        reported s' w'.arguments w'.read = reported s w.arguments w.read ∧
        own (runWith s' w'.arguments w'.read).1 = own (runWith s w.arguments w.read).1) := by
  have herror := run_of_load hs
  refine ⟨fun cache timeout => ?_, fun cache timeout k n => ?_, fun cache timeout d hd => ?_,
    fun w' s' hs' harguments hread hagree => ?_⟩
  · rw [exitCode_eq_zero_iff, herror]
    exact succeeds_iff cache timeout
  · rw [herror]
    exact fails_iff cache timeout k n
  · exact reported_of_chooses hd timeout
  · obtain ⟨hsame, hreported, hown⟩ := runWith_of_agree hagree w.arguments w.read
    have herror' : (run w').error? = (run w).error? := by
      rw [run_of_load hs', herror, harguments, hread, hsame]
    refine ⟨?_, herror', ?_, ?_⟩
    · rw [CheckRun.exitCode, CheckRun.exitCode, herror']
    · rw [harguments, hread, hreported]
    · rw [harguments, hread, hown]

/-- A rule that gives what is expected of it, and one that does not. -/
def oneUnmet : String :=
  "[store.mx]\ntype = \"memory\"\nformat = \"list\"\nvalues = [\"a.example\"]\n\n" ++
  "[eval.name]\ntest = \"mx\"\nexpect = \"mx\"\n\n" ++
  "[maybe-eval.find]\ntest = \"mx\"\nexpect = \"b.example\"\n"

/-- Settings that leave no time for lookups and keep one answer. -/
def hurried : String := "[engine]\nlookup_timeout_ms = 0\ncache_entries = 1\n"

def hurriedSettings : Settings :=
  { Settings.default with
    engine := { Settings.default.engine with timeout := 0, cacheEntries := 1 } }

def hurriedRun : Surroundings := ⟨some (.ok hurried), [], ["rules.toml"], fun _ => .ok oneUnmet⟩

/-- The same document with no settings of its own, and a log that is switched off. -/
def silentRun : Surroundings := ⟨none, [("RUST_LOG", "off")], ["rules.toml"], fun _ => .ok oneUnmet⟩

theorem pathOf_engine : Settings.pathOf "engine" = ["engine"] := by
  have hsplit : "engine".splitOn "." = ["engine"] := splitOn_of_notMem (by decide : '.' ∉ _)
  rw [Settings.pathOf, hsplit]
  exact ite_self _

theorem load_hurried :
    Settings.load hurriedRun.settingsFile hurriedRun.environment = .ok hurriedSettings := by
  have hentries : Settings.fileEntries? hurriedRun.settingsFile = some
      [("engine", .table [("cache_entries", .integer 1), ("lookup_timeout_ms", .integer 0)])] := by
    decide +kernel
  have hentry : ∀ v, Settings.setEntry [] ("engine", v) = Settings.setName [] "engine" v := by
    intro v
    rw [Settings.setEntry, pathOf_engine]
    rfl
  have hnone : hurriedRun.environment = [] := rfl
  rw [Settings.load, hentries, hnone]
  simp only [List.filterMap_nil, List.append_nil, List.foldl_cons, List.foldl_nil, hentry]
  rfl

/-- Both runs report that one of two checks failed. -/
theorem verdict_of_hurriedRun :
    Settings.load hurriedRun.settingsFile hurriedRun.environment = .ok hurriedSettings ∧
    (run hurriedRun).error? = some (.failed 1 2) ∧ (run silentRun).error? = some (.failed 1 2) ∧
    (run silentRun).exitCode = (run hurriedRun).exitCode := by
  obtain ⟨_, hfails, _, hsame⟩ := verdict_of_load load_hurried
  have hsilent : Settings.load silentRun.settingsFile silentRun.environment = .ok .default := rfl
  obtain ⟨hcode, herror, _⟩ := hsame silentRun .default hsilent rfl rfl ⟨rfl, rfl, rfl⟩
  have hcounts : (match RuleDocument.parse .default oneUnmet with
    | .error _ => false
    | .ok d => 1 = (d.unmet 0).length ∧ 2 = d.expectations.length) = true := by decide +kernel
  have hfailed : (run hurriedRun).error? = some (.failed 1 2) := by
    refine (hfails none 0 1 2).mpr ?_
    cases hd : RuleDocument.parse .default oneUnmet with
    | error err =>
        rw [hd] at hcounts
        cases hcounts
    | ok d =>
        rw [hd] at hcounts
        obtain ⟨hunmet, htotal⟩ := of_decide_eq_true hcounts
        exact ⟨d, ⟨oneUnmet, rfl, hd⟩, by decide, hunmet, htotal⟩
  exact ⟨load_hurried, hfailed, herror.trans hfailed, hcode⟩

end Check
end EnvelopeRules
