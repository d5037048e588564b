import EnvelopeRules.Envelope.Field
import EnvelopeRules.Text.Lowercase

/-!
# Envelopes

An envelope gives a value to some of the fields.  Setting the sender or the recipient also sets the
domain that the address names, if it names one.
-/

namespace EnvelopeRules

@[ext] structure Envelope where
  get? : Field → Option FieldValue

namespace Envelope

def empty : Envelope := ⟨fun _ => none⟩

instance : Inhabited Envelope := ⟨empty⟩

/-- Gives a field a value. -/
def put (e : Envelope) (f : Field) (v : FieldValue) : Envelope :=
  ⟨fun g => if g = f then some v else e.get? g⟩

@[simp] theorem get?_empty (f : Field) : empty.get? f = none := rfl

theorem get?_put (e : Envelope) (f g : Field) (v : FieldValue) :
    (e.put f v).get? g = if g = f then some v else e.get? g := rfl

/-- The text of a field. -/
def text? (e : Envelope) (f : Field) : Option String := (e.get? f).map FieldValue.render

/-- The fields that have a value. -/
def fields (e : Envelope) : List Field := Field.all.filter fun f => (e.get? f).isSome

def size (e : Envelope) : Nat := e.fields.length

def isEmpty (e : Envelope) : Bool := e.fields.isEmpty

/-- What follows the last at sign. -/
def afterLastAt (cs : List Char) : Option (List Char) :=
  if cs.contains '@' then some (cs.reverse.takeWhile (· != '@')).reverse else none

/-- The domain of an address in lower case, if the address has one. -/
def domain? (address : String) : Option String :=
  match afterLastAt address.toList with
  | some (c :: cs) => some (lowercase (String.ofList (c :: cs)))
  | _ => none

/-- Sets a domain if an address has one. -/
def putDomain (e : Envelope) (f : Field) (address : String) : Envelope :=
  match domain? address with
  | some d => e.put f (.text d)
  | none => e

def withSender (e : Envelope) (address : String) : Envelope :=
  (e.putDomain .senderDomain address).put .sender (.text address)

def withRecipient (e : Envelope) (address : String) : Envelope :=
  (e.putDomain .rcptDomain address).put .rcpt (.text address)

end Envelope
end EnvelopeRules
