import EnvelopeRules.Net.Address
import EnvelopeRules.Text.Decimal

/-!
# Envelope fields

The fields of an envelope, the kind of value that each one takes, and the values themselves.
-/

namespace EnvelopeRules

inductive FieldKind where
  | domain | mailbox | address | integer | id
  deriving DecidableEq, Repr

inductive Field where
  | rcpt | rcptDomain | sender | senderDomain | mx | heloDomain | authenticatedAs | listener
  | localIp | remoteIp | priority
  deriving DecidableEq, Repr

namespace Field

def all : List Field :=
  [rcpt, rcptDomain, sender, senderDomain, mx, heloDomain, authenticatedAs, listener, localIp,
    remoteIp, priority]

def name : Field → String
  | rcpt => "rcpt"
  | rcptDomain => "rcpt-domain"
  | sender => "sender"
  | senderDomain => "sender-domain"
  | mx => "mx"
  | heloDomain => "helo-domain"
  | authenticatedAs => "authenticated-as"
  | listener => "listener"
  | localIp => "local-ip"
  | remoteIp => "remote-ip"
  | priority => "priority"

def kind : Field → FieldKind
  | rcptDomain | senderDomain | mx | heloDomain => .domain
  | rcpt | sender | authenticatedAs => .mailbox
  | localIp | remoteIp => .address
  | priority => .integer
  | listener => .id

/-- The field of a name. -/
def named? (name : String) : Option Field := all.find? fun f => f.name == name

theorem mem_all (f : Field) : f ∈ all := by cases f <;> decide

theorem name_injective {f g : Field} (h : f.name = g.name) : f = g := by
  cases f <;> cases g <;> first | rfl | exact absurd h (by decide)

@[simp] theorem named?_name (f : Field) : named? f.name = some f := by cases f <;> decide

theorem named?_eq_some_iff {name : String} {f : Field} : named? name = some f ↔ f.name = name := by
  constructor
  · intro h
    simpa using List.find?_some h
  · rintro rfl
    exact named?_name f

end Field

inductive FieldValue where
  | text (s : String)
  | address (a : Address)
  | integer (n : Int64)
  | id (n : UInt64)
  deriving DecidableEq

namespace FieldValue

/-- The text that a value is compared by and shown as. -/
def render : FieldValue → String
  | .text s => s
  | .address a => a.text
  | .integer n => Decimal.ofInt64 n
  | .id n => Decimal.ofUInt64 n

end FieldValue
end EnvelopeRules
