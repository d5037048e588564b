import EnvelopeRules.Log.Directive

/-!
# Filters of log events

A filter is a list of directives with commas between them.  The most specific directive that covers
an event decides whether it is let through; of two that are equally specific it is the later one.
-/

namespace EnvelopeRules

structure LogFilter where
  directives : List LogDirective

namespace LogFilter

/-- The directive that lets errors through and nothing else. -/
def errorsOnly : LogDirective := ⟨none, none, none, LogLevel.error.detail⟩

/-- Without directives only errors are let through. -/
def ofDirectives (ds : List LogDirective) : LogFilter :=
  ⟨if ds.isEmpty then [errorsOnly] else ds⟩

def words (text : String) : List String := (text.splitOn ",").filter fun w => !w.isEmpty

/-- The filter of a text; nothing if one of the directives is malformed. -/
def parse? (text : String) : Option LogFilter :=
  ((words text).mapM fun w => (LogDirective.parse w).toOption).map ofDirectives

/-- A directive that is left out of a filter. -/
structure Ignored where
  word : String
  error : DirectiveError

def ignored? (word : String) : Option Ignored :=
  match LogDirective.parse word with
  | .ok _ => none
  | .error e => some ⟨word, e⟩

/-- The filter of the directives that are well-formed, and the other ones. -/
def parseSome (text : String) : LogFilter × List Ignored :=
  (ofDirectives ((words text).filterMap fun w => (LogDirective.parse w).toOption),
    (words text).filterMap ignored?)

/-- The more specific of two directives, the later one if they are equal. -/
def better (best next : LogDirective) : LogDirective := if best.outranks next then best else next

/-- The directive that decides about an event. -/
def deciding? (f : LogFilter) (e : LogEvent) : Option LogDirective :=
  match f.directives.filter (·.covers e) with
  | [] => none
  | d :: ds => some (ds.foldl better d)

def allows (f : LogFilter) (e : LogEvent) : Bool :=
  (f.deciding? e).any fun d => decide (e.level.detail ≤ d.detail)

/-- The filter that was chosen if it is well-formed, or else that of the settings. -/
def choose (chosen : Option String) (level : String) : LogFilter × List Ignored :=
  match chosen.bind parse? with
  | some f => (f, [])
  | none => parseSome level

/-- What is said about a malformed directive. -/
def Ignored.line (i : Ignored) : String :=
  "ignoring " ++ String.ofList [Char.ofNat 0x60] ++ i.word ++ String.ofList [Char.ofNat 0x60] ++
    ": " ++ i.error.message

end LogFilter
end EnvelopeRules
