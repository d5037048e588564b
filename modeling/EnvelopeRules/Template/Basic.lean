import EnvelopeRules.Template.Segment
import EnvelopeRules.Envelope.Basic
import EnvelopeRules.EvalError

/-!
# Templates

A template is read once into literals, references to captures and references to fields.  It is
rendered from left to right, and what is inserted is not read again.
-/

namespace EnvelopeRules

/-- What a condition captured: a text for each group that took part, nothing for one that did
not. -/
structure Captures where
  matched : List (Option String)
  deriving DecidableEq, Repr

namespace Captures

def none : Captures := ⟨[]⟩

/-- The captures of a condition on a whole text. -/
def whole (text : String) : Captures := ⟨[some text]⟩

def size (c : Captures) : Nat := c.matched.length

/-- The texts of the groups; one that took no part is empty. -/
def groups (c : Captures) : List String := c.matched.map fun g => g.getD ""

def get (c : Captures) (index : Nat) : Eval String :=
  match c.matched[index]? with
  | some group => .ok (group.getD "")
  | .none => .error (.captureOutOfRange index c.size)

end Captures

inductive TemplateError where
  | unterminated (template : String)
  | invalidToken (template token : String)
  | unknownField (name : String)
  deriving DecidableEq, Repr

namespace TemplateError

def message : TemplateError → String
  | .unterminated t => "Unterminated substitution in template '" ++ t ++ "'"
  | .invalidToken t token =>
    "Invalid substitution '" ++ Template.reference token ++ "' in template '" ++ t ++ "'"
  | .unknownField name => "Unknown envelope field: " ++ name

end TemplateError

inductive Template.Token where
  | literal (text : String)
  | capture (index : Nat)
  | field (f : Field)
  deriving DecidableEq, Repr

structure Template where
  source : String
  tokens : List Template.Token
  deriving DecidableEq, Repr

namespace Template

/-! ## Reading -/

/-- Captures are counted in 64 bits. -/
def captureLimit : Nat := UInt64.size

/-- What a reference names: a capture by its number or a field. -/
def resolve (source : String) (name : List Char) : Except TemplateError Token :=
  if name.isEmpty then .error (.invalidToken source (String.ofList name))
  else if name.all Char.isDigit then
    let index := Nat.ofDigitChars 10 name 0
    if index < captureLimit then .ok (.capture index)
    else .error (.invalidToken source (String.ofList name))
  else match Field.named? (String.ofList name) with
    | some f => .ok (.field f)
    | none => .error (.unknownField (String.ofList name))

/-- The text that an escape stands for. -/
def escapeText (text : List Char) : List Char := '$' :: '{' :: text ++ ['}']

def Segment.token (source : String) : Segment → Except TemplateError Token
  | .literal c => .ok (.literal (String.ofList [c]))
  | .escape text => .ok (.literal (String.ofList (escapeText text)))
  | .reference name => resolve source name

/-- Joins neighbouring literals. -/
def joinLiterals : List Token → List Token
  | [] => []
  | t :: ts =>
    match t, joinLiterals ts with
    | .literal a, .literal b :: rest => .literal (a ++ b) :: rest
    | t, rest => t :: rest

def parse (source : String) : Except TemplateError Template :=
  let cut := segments source.toList
  match cut.1.mapM (Segment.token source) with
  | .error e => .error e
  | .ok tokens =>
    if cut.2 then .ok ⟨source, joinLiterals tokens⟩ else .error (.unterminated source)

/-! ## Rendering -/

def Token.render (c : Captures) (e : Envelope) : Token → Eval String
  | .literal text => .ok text
  | .capture index => c.get index
  | .field f =>
    match e.text? f with
    | some text => .ok text
    | none => .error (.fieldNotFound f)

def renderTokens (c : Captures) (e : Envelope) : List Token → Eval String
  | [] => .ok ""
  | t :: ts => do return (← t.render c e) ++ (← renderTokens c e ts)

def render (t : Template) (c : Captures) (e : Envelope) : Eval String := renderTokens c e t.tokens

/-! ## What a template refers to -/

def Token.text? : Token → Option String
  | .literal text => some text
  | _ => none

def Token.field? : Token → Option Field
  | .field f => some f
  | _ => none

/-- Whether a template refers to nothing. -/
def isStatic (t : Template) : Bool := t.tokens.all fun k => k.text?.isSome

/-- The text of a template that refers to nothing. -/
def staticText? (t : Template) : Option String :=
  (t.tokens.mapM Token.text?).map String.join

/-- The fields referred to, in order. -/
def fields (t : Template) : List Field := t.tokens.filterMap Token.field?

end Template
end EnvelopeRules
