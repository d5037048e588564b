import EnvelopeRules.Table
import EnvelopeRules.Number.Binary64

/-!
# Values of a document

The entries of a table are in ascending order of their names.  A date or a time is kept as its text.
-/

namespace EnvelopeRules
namespace Toml

inductive Value where
  | text (s : String)
  | integer (n : Int64)
  | float (x : Binary64)
  | boolean (b : Bool)
  | datetime (s : String)
  | array (items : List Value)
  | table (entries : List (String × Value))

namespace Value

instance : Inhabited Value := ⟨.boolean false⟩

def text? : Value → Option String
  | .text s => some s
  | _ => none

def table? : Value → Option (Table Value)
  | .table entries => some (.ofList entries)
  | _ => none

mutual

/-- The value with every date and time as a text. -/
def plain : Value → Value
  | .datetime s => .text s
  | .array items => .array (plainItems items)
  | .table entries => .table (plainEntries entries)
  | v => v

def plainItems : List Value → List Value
  | [] => []
  | v :: rest => v.plain :: plainItems rest

def plainEntries : List (String × Value) → List (String × Value)
  | [] => []
  | (name, v) :: rest => (name, v.plain) :: plainEntries rest

end

/-! ## Comparing values -/

mutual

def same : Value → Value → Bool
  | .text s, .text t => s == t
  | .integer m, .integer n => m == n
  | .float x, .float y => x == y
  | .boolean a, .boolean b => a == b
  | .datetime s, .datetime t => s == t
  | .array vs, .array ws => sameItems vs ws
  | .table es, .table fs => sameEntries es fs
  | _, _ => false

def sameItems : List Value → List Value → Bool
  | [], [] => true
  | v :: vs, w :: ws => same v w && sameItems vs ws
  | _, _ => false

def sameEntries : List (String × Value) → List (String × Value) → Bool
  | [], [] => true
  | (m, v) :: es, (n, w) :: fs => m == n && same v w && sameEntries es fs
  | _, _ => false

end

mutual

theorem same_iff (v w : Value) : same v w ↔ v = w := by
  cases v with
  | array vs => cases w <;> simp [same, sameItems_iff vs]
  | table es => cases w <;> simp [same, sameEntries_iff es]
  | _ => cases w <;> simp [same]
termination_by structural v

theorem sameItems_iff (vs ws : List Value) : sameItems vs ws ↔ vs = ws := by
  cases vs with
  | nil => cases ws <;> simp [sameItems]
  | cons v vs => cases ws <;> simp [sameItems, same_iff v, sameItems_iff vs]
termination_by structural vs

theorem sameEntries_iff (es fs : List (String × Value)) : sameEntries es fs ↔ es = fs := by
  cases es with
  | nil => cases fs <;> simp [sameEntries]
  | cons e es =>
      cases fs with
      | nil => simp [sameEntries]
      | cons f fs => simp [sameEntries, same_iff e.2, sameEntries_iff es, Prod.ext_iff]
termination_by structural es

end

instance : DecidableEq Value := fun v w => decidable_of_iff _ (same_iff v w)

end Value
end Toml
end EnvelopeRules
