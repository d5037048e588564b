import EnvelopeRules.Log.Event
import EnvelopeRules.Regex.Meaning
import EnvelopeRules.Regex.Reader
import EnvelopeRules.Text.CharKind

/-!
# Directives of a log filter

A directive lets events through up to some detail.  It is written as a level alone, or as
`target[span{field=value}]=level` with any of its parts left out but not all of them.  An event
is under a directive if its target begins as the directive says and it has the field that is named.
-/

namespace EnvelopeRules

/-- A field that an event must have, and whether a value is asked for as well. -/
structure LogField where
  name : String
  valued : Bool
  deriving DecidableEq, Repr

structure LogDirective where
  target : Option String
  span : Option String
  field : Option LogField
  detail : Nat
  deriving DecidableEq, Repr

/-- Why the value of a field cannot be asked for. -/
inductive FieldProblem where
  | malformed
  | wordEdge
  deriving DecidableEq, Repr

inductive DirectiveError where
  | malformed
  | level
  | field (problem : FieldProblem)
  deriving DecidableEq, Repr

namespace FieldProblem

def message : FieldProblem → String
  | malformed => "error building NFA"
  | wordEdge =>
    "unsupported regex feature for DFAs: cannot build DFAs for regexes with Unicode word " ++
      "boundaries; switch to ASCII word boundaries, or heuristically enable Unicode word " ++
      "boundaries or use a different regex engine"

end FieldProblem

namespace DirectiveError

def message : DirectiveError → String
  | malformed => "invalid filter directive"
  | level =>
    "error parsing level filter: expected one of \"off\", \"error\", \"warn\", \"info\", " ++
      "\"debug\", \"trace\", or a number 0-5"
  | field problem => "invalid field filter: " ++ problem.message

end DirectiveError

namespace LogDirective

/-! ## Levels -/

def maxDetail : Nat := LogLevel.trace.detail

/-- The detail that a word or a number stands for; none at all for `off`. -/
def detail? (word : List Char) : Option Nat :=
  let lower := String.ofList (word.map Char.toLower)
  if lower = "off" then some 0
  else match LogLevel.all.find? fun l =>
    String.ofList (l.name.toList.map Char.toLower) == lower with
    | some l => some l.detail
    | none => (Decimal.natural? word).filter fun n => decide (n ≤ maxDetail)

/-! ## Values of fields -/

/-- Whether digits may be written with a fraction and an exponent, as in `1.5e-3`. -/
def isUnsigned (cs : List Char) : Bool :=
  let whole := cs.takeWhile Char.isDigit
  let rest := cs.drop whole.length
  let fraction := match rest with
    | '.' :: cs => cs.takeWhile Char.isDigit
    | _ => []
  let exponent := match rest with
    | '.' :: cs => cs.drop fraction.length
    | cs => cs
  !(whole.isEmpty && fraction.isEmpty) &&
    match exponent with
    | [] => true
    | e :: cs => e.toLower == 'e' && (Decimal.integer? cs).isSome

def isNumber (cs : List Char) : Bool :=
  let unsigned := match cs with
    | '+' :: cs => cs
    | '-' :: cs => cs
    | cs => cs
  String.ofList (unsigned.map Char.toLower) ∈ ["inf", "infinity", "nan"] || isUnsigned unsigned

def isWordEdge : Regex.Look → Bool
  | .word unicode _ => unicode
  | _ => false

/-- What is wrong with a value; a value that is no number is a pattern. -/
def valueProblem? (value : List Char) : Option FieldProblem :=
  if isNumber value then none
  else match (Regex.read? value).bind Regex.Pattern.ofTree? with
    | none => some .malformed
    | some p => if p.looks.any isWordEdge then some .wordEdge else none

/-! ## Reading

Blanks around a directive do not count when it is cut into its parts.  The parts are then taken from
the text with its blanks, by their positions.
-/

/-- What is left of a text without the blanks around it, and of the text with them. -/
structure Rest where
  trimmed : List Char
  given : List Char

namespace Rest

def drop (n : Nat) (r : Rest) : Rest := ⟨r.trimmed.drop n, r.given.drop n⟩

/-- The part before the first character that ends it, and what is left from there on. -/
def cut (ends : Char → Bool) (r : Rest) : String × Rest :=
  let n := (r.trimmed.takeWhile fun c => !ends c).length
  (String.ofList (r.given.take n), r.drop n)

end Rest

def trim (cs : List Char) : List Char :=
  ((cs.dropWhile Regex.isSpace).reverse.dropWhile Regex.isSpace).reverse

def mayStart (c : Char) : Bool :=
  c == '-' || c == ':' || c == '_' || CharKind.isAlphanumeric c

/-- The level after an equals sign; without a word it is the highest. -/
def readLevel (r : Rest) : Except DirectiveError Nat :=
  if r.trimmed.isEmpty then .ok maxDetail
  else match detail? r.given with
    | some d => .ok d
    | none => .error .level

def readField (text : String) : Except DirectiveError LogField :=
  match text.splitOn "=" with
  | name :: value :: _ =>
    match valueProblem? value.toList with
    | some problem => .error (.field problem)
    | none => .ok ⟨name, true⟩
  | _ => if text.isEmpty then .error .malformed else .ok ⟨text, false⟩

/-- What follows a span. -/
def readDetail (r : Rest) : Except DirectiveError Nat :=
  match r.trimmed with
  | [] => .ok maxDetail
  | '=' :: _ => readLevel (r.drop 1)
  | _ => .error .malformed

/-- A span and what follows it, after its opening bracket. -/
def readSpan (target : Option String) (r : Rest) : Except DirectiveError LogDirective := do
  let (name, r) := r.cut fun c => c == ']' || c == '{'
  match r.trimmed with
  | ']' :: _ => return ⟨target, some name, none, ← readDetail (r.drop 1)⟩
  | '{' :: _ =>
    let (text, r) := (r.drop 1).cut (· == '}')
    match r.trimmed with
    | '}' :: ']' :: _ =>
      let field ← readField text
      let span := if name.isEmpty then none else some name
      return ⟨target, span, some field, ← readDetail (r.drop 2)⟩
    | '}' :: _ => let _ ← readField text; .error .malformed
    | _ => .error .malformed
  | _ => .error .malformed

def parse (text : String) : Except DirectiveError LogDirective :=
  let r : Rest := ⟨trim text.toList, text.toList⟩
  match r.trimmed with
  | [] => .error .malformed
  | '[' :: _ => readSpan none (r.drop 1)
  | c :: _ =>
    if mayStart c then
      let (target, rest) := r.cut fun c => c == '=' || c == '['
      match rest.trimmed with
      | [] =>
        match detail? r.given with
        | some d => .ok ⟨none, none, none, d⟩
        | none => .ok ⟨some text, none, none, maxDetail⟩
      | '[' :: _ => readSpan (some target) (rest.drop 1)
      | _ => (readLevel (rest.drop 1)).map fun d => ⟨some target, none, none, d⟩
    else .error .malformed

/-! ## Events -/

/-- A directive for a span or for a value of a field is never met, since no event stands in a
span. -/
def isMet (d : LogDirective) : Bool :=
  d.span.isNone && d.field.all fun f => !f.valued

/-- Whether an event is under the directive. -/
def covers (d : LogDirective) (e : LogEvent) : Bool :=
  d.isMet && d.target.all (fun t => t.toList.isPrefixOf e.target.toList) &&
    d.field.all fun f => f.name ∈ "message" :: e.fields.map Prod.fst

/-- How much of a target is given; any target is more than none. -/
def targetRank (d : LogDirective) : Nat :=
  match d.target with
  | none => 0
  | some t => t.length + 1

/-- Whether a directive is more specific than another one that covers the same event. -/
def outranks (a b : LogDirective) : Bool :=
  if a.targetRank = b.targetRank then
    match a.field, b.field with
    | none, _ => false
    | some _, none => true
    | some f, some g => decide (g.name < f.name)
  else decide (b.targetRank < a.targetRank)

end LogDirective
end EnvelopeRules
