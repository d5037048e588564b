import EnvelopeRules.Store.Query

/-!
# Caches of answers

A cache remembers members and misses apart, each for a lifetime of its own.  Either side keeps a
bounded number of answers, and forgets the one that was used least recently.  An answer is valid up
to and including the moment at which its lifetime ends.
-/

namespace EnvelopeRules

/-- Answers to queries, the most recently used first. -/
abbrev Recent (α : Type) := List (Query × α)

namespace Recent

variable {α : Type}

def find? (l : Recent α) (q : Query) : Option α :=
  match l with
  | [] => none
  | e :: rest => if e.1 = q then some e.2 else find? rest q

def erase (l : Recent α) (q : Query) : Recent α := l.filter fun e => e.1 ≠ q

/-- Makes an answer the most recent one. -/
def use (l : Recent α) (q : Query) : Recent α :=
  match find? l q with
  | some a => (q, a) :: erase l q
  | none => l

/-- Adds or replaces an answer and forgets what is beyond the capacity. -/
def put (capacity : Nat) (l : Recent α) (q : Query) (a : α) : Recent α :=
  ((q, a) :: erase l q).take capacity

end Recent

structure CacheSettings where
  capacity : Nat
  memberLife : Nat
  missLife : Nat
  capacity_pos : 0 < capacity := by decide
  deriving DecidableEq

structure Cache where
  settings : CacheSettings
  members : Recent (String × Nat)
  misses : Recent Nat

namespace Cache

def empty (settings : CacheSettings) : Cache := ⟨settings, [], []⟩

/-- Looks for a valid miss; one that is no longer valid is dropped. -/
def consultMiss (c : Cache) (now : Nat) (q : Query) : Option (Option String) × Cache :=
  match c.misses.find? q with
  | none => (none, c)
  | some validUntil =>
    if now ≤ validUntil then (some none, { c with misses := c.misses.use q })
    else (none, { c with misses := c.misses.erase q })

/-- The remembered answer to a query, if there is a valid one. -/
def consult (c : Cache) (now : Nat) (q : Query) : Option (Option String) × Cache :=
  match c.members.find? q with
  | none => c.consultMiss now q
  | some (member, validUntil) =>
    if now ≤ validUntil then (some (some member), { c with members := c.members.use q })
    else { c with members := c.members.erase q }.consultMiss now q

/-- Remembers an answer, which takes the place of one of the other kind. -/
def remember (c : Cache) (now : Nat) (q : Query) (answer : Option String) : Cache :=
  match answer with
  | some member =>
    { c with
      misses := c.misses.erase q
      members := c.members.put c.settings.capacity q (member, now + c.settings.memberLife) }
  | none =>
    { c with
      members := c.members.erase q
      misses := c.misses.put c.settings.capacity q (now + c.settings.missLife) }

def clear (c : Cache) : Cache := { c with members := [], misses := [] }

end Cache
end EnvelopeRules
