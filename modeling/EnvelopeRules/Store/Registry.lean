import EnvelopeRules.Table
import EnvelopeRules.Store.Basic
import EnvelopeRules.Text.Brace

/-!
# Registered stores

Stores are registered under their own identifiers; the first one of an identifier stays.
-/

namespace EnvelopeRules

structure Registry where
  stores : Table Store

namespace Registry

def empty : Registry := ⟨.empty⟩

instance : Inhabited Registry := ⟨empty⟩

def insert (r : Registry) (s : Store) : Except StoreError Registry :=
  if r.stores.contains s.id then .error (.duplicate s.id) else .ok ⟨r.stores.insert s.id s⟩

def resolve (r : Registry) (id : String) : Option Store := r.stores.find? id

def contains (r : Registry) (id : String) : Bool := r.stores.contains id

/-- The identifiers in ascending order. -/
def ids (r : Registry) : List String := r.stores.names

def size (r : Registry) : Nat := r.stores.size

def isEmpty (r : Registry) : Bool := r.stores.isEmpty

/-- Puts a store back after a query. -/
def update (r : Registry) (id : String) (s : Store) : Registry := ⟨r.stores.insert id s⟩

def shown (r : Registry) : String :=
  let ids := String.intercalate ", " (r.ids.map Quoted.encode)
  "StoreRegistry " ++ braced (" stores: [" ++ ids ++ "] ")

end Registry
end EnvelopeRules
