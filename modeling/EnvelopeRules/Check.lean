import EnvelopeRules.Settings.Layers
import EnvelopeRules.Log.Filter
import EnvelopeRules.Log.Trace

/-!
# Checking a document

The program loads the settings and a document of rules, evaluates every rule that states what it is
expected to give, and reports.  It succeeds if all give what is expected.
-/

namespace EnvelopeRules

/-- What the program starts from. -/
structure Surroundings where
  settingsFile : Option (Except ReadFailure String)
  environment : List (String × String)
  arguments : List String
  read : String → Except ReadFailure String

inductive CheckError where
  | settings (e : SettingsError)
  | unreadable (failure : ReadFailure)
  | load (e : LoadError)
  | failed (count total : Nat)

namespace CheckError

def message : CheckError → String
  | .settings e => e.message
  | .unreadable failure => "Failed to read rule document: " ++ failure.message
  | .load e => e.message
  | .failed count total =>
    Decimal.ofNat count ++ " of " ++ Decimal.ofNat total ++ " checks failed"

/-- How the program reports the error when it ends. -/
def line (e : CheckError) : String := "Error: " ++ e.message

end CheckError

/-- What a run of the program does: the events that it logs, the directives that it ignores and the
error with which it ends. -/
structure CheckRun where
  events : List LogEvent
  asJson : Bool
  ignored : List LogFilter.Ignored
  error? : Option CheckError

namespace CheckRun

def exitCode (r : CheckRun) : Nat := if r.error?.isSome then 1 else 0

def logLines (r : CheckRun) : List String :=
  r.events.map fun e => if r.asJson then e.json else e.text

def errorLines (r : CheckRun) : List String :=
  r.ignored.map LogFilter.Ignored.line ++ (r.error?.map CheckError.line).toList

end CheckRun

namespace Check

/-! ## Events -/

def info (target message : String) (fields : List (String × LogValue)) : LogEvent :=
  ⟨.info, target, message, fields⟩

def program : String := "mailrule"

def loading (path : String) : LogEvent :=
  info program "Loading rule document" [("path", .shown path)]

def loaded (path : String) (d : RuleDocument) : LogEvent :=
  info "mailrule_core::loader" "Loaded rule document"
    [("path", .shown path), ("rules", .number d.rules.size),
      ("stores", .number d.rules.stores.size)]

def noEnvelope : LogEvent :=
  ⟨.warn, program, "Rule document declares no envelope; evaluating against an empty one", []⟩

def initialized (d : RuleDocument) : LogEvent :=
  info "mailrule_core::engine" "Rule engine initialized"
    [("rules", .number d.rules.size), ("stores", .number d.rules.stores.size)]

def allPassed (count : Nat) : LogEvent :=
  info program "All checks passed" [("checks", .number count)]

/-- The event of one result. -/
def checked (v : Verification) : LogEvent :=
  let start := [("kind", LogValue.shown v.kind.name), ("rule", LogValue.shown v.name)]
  let failed := fun (fields : List (String × LogValue)) =>
    (⟨.warn, program, "Check failed",
      start ++ ("expected", .shown v.expected.shown) :: fields⟩ : LogEvent)
  match v.actual with
  | .ok actual =>
    if v.passed then info program "Check passed" (start ++ [("result", .shown actual.shown)])
    else failed [("actual", .shown actual.shown)]
  | .error e => failed [("code", .quoted e.code), ("error", .shown e.message)]

/-! ## The run -/

/-- The document's path: the first argument, or the one of the settings. -/
def rulesPath (s : Settings) (arguments : List String) : String :=
  arguments.headD s.engine.rulesPath

/-- The report on the expectations of a document, on its own envelope. -/
def report (s : Settings) (d : RuleDocument) : Report :=
  ((Engine.ofRules d.rules s.engine.timeout).verify d.expectations (d.envelope.getD .empty)).1

/-- The verdict on a report. -/
def verdict (r : Report) : Option CheckError :=
  if r.failures.isEmpty then none else some (.failed r.failures.length r.results.length)

/-- The events after a document is loaded. -/
def checkEvents (s : Settings) (path : String) (d : RuleDocument) : List LogEvent :=
  let e := d.envelope.getD .empty
  let r := report s d
  loaded path d :: (if d.envelope.isNone then [noEnvelope] else []) ++ initialized d ::
    Trace.verify e (Engine.ofRules d.rules s.engine.timeout) d.expectations ++
    r.results.map checked ++ (if (verdict r).isNone then [allPassed r.results.length] else [])

/-- All events of a run with its settings, and the error with which it ends. -/
def runWith (s : Settings) (arguments : List String)
    (read : String → Except ReadFailure String) : List LogEvent × Option CheckError :=
  let path := rulesPath s arguments
  match read path with
  | .error failure => ([loading path], some (.unreadable failure))
  | .ok text =>
    let start := loading path :: Trace.load s.engine.loadOptions text
    match RuleDocument.parse s.engine.loadOptions text with
    | .error e => (start, some (.load e))
    | .ok d => (start ++ checkEvents s path d, verdict (report s d))

/-- The variable that chooses what is logged. -/
def filterVariable : String := "RUST_LOG"

def run (w : Surroundings) : CheckRun :=
  match Settings.load w.settingsFile w.environment with
  | .error e => ⟨[], true, [], some (.settings e)⟩
  | .ok s =>
    let (filter, ignored) := LogFilter.choose (w.environment.lookup filterVariable) s.logging.level
    let (events, error?) := runWith s w.arguments w.read
    ⟨events.filter filter.allows, s.logging.format == "json", ignored, error?⟩

end Check
end EnvelopeRules
