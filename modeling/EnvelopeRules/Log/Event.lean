import EnvelopeRules.Text.Brace
import EnvelopeRules.Text.Decimal
import EnvelopeRules.Text.Quoted

/-!
# Log events

An event has a level, the part of the program that it comes from, a message and named values.
-/

namespace EnvelopeRules

inductive LogLevel where
  | error | warn | info | debug | trace
  deriving DecidableEq, Repr

namespace LogLevel

def all : List LogLevel := [error, warn, info, debug, trace]

/-- How much detail a level stands for. -/
def detail : LogLevel → Nat
  | error => 1
  | warn => 2
  | info => 3
  | debug => 4
  | trace => 5

def name : LogLevel → String
  | error => "ERROR"
  | warn => "WARN"
  | info => "INFO"
  | debug => "DEBUG"
  | trace => "TRACE"

end LogLevel

/-- A value of an event: a text as it is, a text between quotes, a number or a flag. -/
inductive LogValue where
  | shown (text : String)
  | quoted (text : String)
  | number (n : Nat)
  | flag (b : Bool)
  deriving DecidableEq, Repr

structure LogEvent where
  level : LogLevel
  target : String
  message : String
  fields : List (String × LogValue)
  deriving DecidableEq, Repr

namespace LogValue

def flagText (b : Bool) : String := if b then "true" else "false"

def text : LogValue → String
  | .shown text => text
  | .quoted text => Quoted.encode text
  | .number n => Decimal.ofNat n
  | .flag b => flagText b

/-- The characters of a text inside a JSON string. -/
def jsonChar (c : Char) : List Char :=
  match c with
  | '"' => "\\\"".toList
  | '\\' => "\\\\".toList
  | '\n' => "\\n".toList
  | '\r' => "\\r".toList
  | '\t' => "\\t".toList
  | '\x08' => "\\b".toList
  | '\x0c' => "\\f".toList
  | c =>
    if c.toNat < 0x20 then
      let digits := Nat.toDigits 16 c.toNat
      "\\u".toList ++ List.replicate (4 - digits.length) '0' ++ digits
    else [c]

def jsonText (text : String) : String :=
  String.ofList ('"' :: text.toList.flatMap jsonChar ++ ['"'])

def json : LogValue → String
  | .shown text => jsonText text
  | .quoted text => jsonText text
  | .number n => Decimal.ofNat n
  | .flag b => flagText b

end LogValue

namespace LogEvent

/-- The event as a line of text. -/
def text (e : LogEvent) : String :=
  let fields := e.fields.map fun f => " " ++ f.1 ++ "=" ++ f.2.text
  e.level.name ++ " " ++ e.target ++ ": " ++ e.message ++ String.join fields

def jsonObject (members : List (String × String)) : String :=
  let members := members.map fun m => LogValue.jsonText m.1 ++ ":" ++ m.2
  braced (String.intercalate "," members)

/-- The event as an object on one line. -/
def json (e : LogEvent) : String :=
  let fields := ("message", LogValue.jsonText e.message) :: e.fields.map fun f => (f.1, f.2.json)
  jsonObject [("level", LogValue.jsonText e.level.name), ("fields", jsonObject fields),
    ("target", LogValue.jsonText e.target)]

end LogEvent
end EnvelopeRules
