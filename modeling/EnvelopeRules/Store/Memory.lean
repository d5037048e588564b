import EnvelopeRules.Table
import EnvelopeRules.Store.Query

/-!
# Lists of members

The members of a store in memory, each once, in the order in which they were first given, and an
index that tells what is a member.
-/

namespace EnvelopeRules

structure Memory where
  values : List String
  index : Table Unit

namespace Memory

def empty : Memory := ⟨[], .empty⟩

/-- Adds a value unless it is in the index. -/
def add (m : Memory) (v : String) : Memory :=
  if m.index.contains v then m else ⟨m.values ++ [v], m.index.insert v ()⟩

def ofList (values : List String) : Memory := values.foldl add empty

def size (m : Memory) : Nat := m.values.length

def isEmpty (m : Memory) : Bool := m.values.isEmpty

/-- The answer to a query: the first member, or the key if it is a member. -/
def answer (m : Memory) : Query → Option String
  | .any => m.values.head?
  | .key text => if m.index.contains text then some text else none

end Memory
end EnvelopeRules
