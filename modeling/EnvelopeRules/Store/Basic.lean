import EnvelopeRules.Store.Memory
import EnvelopeRules.Store.Cache

/-!
# Stores

A store answers queries from its cache, if it has one with a valid answer, and else asks its
backend.  The backend may need time and may fail; only its answers are remembered.
-/

namespace EnvelopeRules

/-- What stands behind a store: an answer to each query, after a delay. -/
structure Backend where
  delay : Nat
  answer : Query → Except StoreError (Option String)

namespace Backend

def ofMemory (m : Memory) : Backend := ⟨0, fun q => .ok (m.answer q)⟩

/-- A backend that fails for a reason. -/
def failing (b : Backend) (reason : String) : Backend :=
  { b with answer := fun _ => .error (.backend reason) }

def delayed (b : Backend) (delay : Nat) : Backend := { b with delay }

end Backend

/-- A store; `asked` counts the queries that came to its backend. -/
structure Store where
  id : String
  kind : StoreKind
  format : StoreFormat
  backend : Backend
  cache : Option Cache
  asked : Nat

/-- What came of a query: the answer, or nothing if time ran out, the store after it, and the time
then. -/
structure Reply where
  answer? : Option (Except StoreError (Option String))
  store : Store
  now : Nat

namespace Store

def ofMemory (id : String) (m : Memory) : Store := ⟨id, .memory, .list, .ofMemory m, none, 0⟩

def cached (s : Store) (settings : CacheSettings) : Store :=
  { s with cache := some (.empty settings) }

/-- The store of a declared type and format. -/
def create (id kind format : String) (values : List String) : Except StoreError Store :=
  match StoreKind.named kind, StoreFormat.named format with
  | .ok .memory, .ok .list => .ok (.ofMemory id (.ofList values))
  | _, _ => .error (.unsupported kind format)

/-- The remembered answer to a query. -/
def consult (s : Store) (now : Nat) (q : Query) : Option (Option String) × Store :=
  match s.cache with
  | none => (none, s)
  | some c =>
    let r := c.consult now q
    (r.1, { s with cache := some r.2 })

/-- Remembers an answer of the backend. -/
def remember (s : Store) (now : Nat) (q : Query) (answer : Option String) : Store :=
  { s with cache := s.cache.map fun c => c.remember now q answer }

/-- Forgets all remembered answers. -/
def invalidate (s : Store) : Store := { s with cache := s.cache.map Cache.clear }

/-- Whether a wait is within a limit. -/
def inTime (delay : Nat) : Option Nat → Bool
  | none => true
  | some limit => decide (delay ≤ limit)

/-- Asks the backend and waits within a limit. -/
def ask (s : Store) (limit : Option Nat) (now : Nat) (q : Query) : Reply :=
  let s := { s with asked := s.asked + 1 }
  if inTime s.backend.delay limit then
    let later := now + s.backend.delay
    match s.backend.answer q with
    | .ok member => ⟨some (.ok member), s.remember later q member, later⟩
    | .error e => ⟨some (.error e), s, later⟩
  else ⟨none, s, now + limit.getD 0⟩

/-- Answers a query from the cache or the backend. -/
def query (s : Store) (limit : Option Nat) (now : Nat) (q : Query) : Reply :=
  match s.consult now q with
  | (some member, s) => ⟨some (.ok member), s, now⟩
  | (none, s) => s.ask limit now q

/-- Queries for a key and tells whether there is a member equal to it. -/
def contains (s : Store) (limit : Option Nat) (now : Nat) (key : String) :
    Option (Except StoreError Bool) × Store × Nat :=
  let r := s.query limit now (.key key)
  (r.answer?.map fun answer => answer.map Option.isSome, r.store, r.now)

end Store
end EnvelopeRules
