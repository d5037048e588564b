import EnvelopeRules.Regex.Reader
import EnvelopeRules.Regex.Meaning
import EnvelopeRules.Regex.Size
import EnvelopeRules.Regex.Search

/-!
# Regular expressions

A regular expression is compiled under a limit on its size.  Its captures on a subject are the whole
match and one text for each group, nothing for a group that took no part.
-/

namespace EnvelopeRules

/-- Why a pattern does not compile. -/
inductive PatternError where
  | malformed
  | tooLarge (limit : Nat)
  deriving DecidableEq, Repr

structure Regex where
  source : String
  groups : Nat
  instructions : Array Regex.Instr

namespace Regex

def compile (source : String) (limit : Nat) : Except PatternError Regex :=
  match read? source.toList with
  | none => .error .malformed
  | some tree =>
    match Pattern.ofTree? tree with
    | none => .error .malformed
    | some p =>
      if Size.exceeds limit p then .error (.tooLarge limit)
      else .ok ⟨source, p.groups, (program p).toArray⟩

/-- Two saved positions for the whole match and for each group. -/
def slotCount (r : Regex) : Nat := 2 * (r.groups + 1)

/-- The part of a text between two saved positions. -/
def slice (text : Array Char) (first last : Option Nat) : Option String :=
  match first, last with
  | some a, some b => some (String.ofList (text.extract a b).toList)
  | _, _ => none

def groupText (text : Array Char) (slots : Slots) (group : Nat) : Option String :=
  slice text ((slots[2 * group]?).getD none) ((slots[2 * group + 1]?).getD none)

/-- The texts of the leftmost match and its groups, if there is a match. -/
def captures? (r : Regex) (subject : String) : Option (List (Option String)) :=
  let text := subject.toList.toArray
  (search r.instructions r.slotCount text).map fun slots =>
    (List.range (r.groups + 1)).map (groupText text slots)

/-- The captures are read from the slots of the first match, where each group has its two. -/
theorem slots_of_captures {r : Regex} {subject : String} {groups : List (Option String)}
    (h : r.captures? subject = some groups) :
    ∃ slots, search r.instructions r.slotCount subject.toList.toArray = some slots ∧
      groups.length = r.groups + 1 ∧ ∀ g ≤ r.groups, ∃ first last, slots[2 * g]? = some first ∧
        slots[2 * g + 1]? = some last ∧
        groups[g]? = some (slice subject.toList.toArray first last) := by
  obtain ⟨slots, hslots, rfl⟩ := Option.map_eq_some_iff.mp h
  refine ⟨slots, hslots, by simp, fun g hg => ?_⟩
  have hsize : slots.size = r.slotCount := size_of_search hslots
  have hfirst : 2 * g < slots.size := by rw [hsize, slotCount]; omega
  have hlast : 2 * g + 1 < slots.size := by rw [hsize, slotCount]; omega
  have hrange : g < r.groups + 1 := Nat.lt_succ_of_le hg
  refine ⟨slots[2 * g], slots[2 * g + 1], slots.getElem?_eq_getElem hfirst,
    slots.getElem?_eq_getElem hlast, ?_⟩
  simp [hrange, groupText, hfirst, hlast]

theorem length_captures {r : Regex} {subject : String} {groups : List (Option String)}
    (h : r.captures? subject = some groups) : groups.length = r.groups + 1 := by
  obtain ⟨_, _, hlength, _⟩ := slots_of_captures h
  exact hlength

theorem source_of_compile {source : String} {limit : Nat} {r : Regex}
    (h : compile source limit = .ok r) : r.source = source := by
  unfold compile at h
  split at h
  · cases h
  · split at h
    · cases h
    · split at h
      · cases h
      · cases h; rfl

end Regex
end EnvelopeRules
