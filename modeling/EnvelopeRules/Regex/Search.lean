import EnvelopeRules.Regex.Program
import EnvelopeRules.Unicode.Classes

/-!
# Searching a text

Tasks are tried in the order of preference.  A task that comes to an instruction and a position
where an earlier one has been is given up, since what the earlier one found there was no match.  So
every pair of instruction and position is visited once, and the first match in order of preference
at the leftmost start is found.
-/

namespace EnvelopeRules
namespace Regex

def isWordChar (unicode : Bool) (c : Char) : Bool :=
  if unicode then Unicode.word.contains c else c.isAlphanum || c == '_'

/-- Whether a condition holds between the characters before and after a position. -/
def Look.holds (before after : Option Char) : Look → Bool
  | .textStart => before.isNone
  | .textEnd => after.isNone
  | .lineStart => before.isNone || before == some '\n'
  | .lineEnd => after.isNone || after == some '\n'
  | .lineStartCrlf =>
    before.isNone || before == some '\n' || (before == some '\r' && after != some '\n')
  | .lineEndCrlf =>
    after.isNone || after == some '\r' || (after == some '\n' && before != some '\r')
  | .word unicode edge =>
    let left := before.any (isWordChar unicode)
    let right := after.any (isWordChar unicode)
    match edge with
    | .boundary => left != right
    | .inside => left == right
    | .start => !left && right
    | .finish => left && !right
    | .startHalf => !left
    | .finishHalf => !right

/-- The positions saved so far. -/
abbrev Slots := Array (Option Nat)

structure Task where
  address : Nat
  position : Nat
  slots : Slots

/-- What a task leads to: an end of the search or further tasks. -/
inductive Progress where
  | found (slots : Slots)
  | tasks (next : List Task)

def charBefore (text : Array Char) (position : Nat) : Option Char :=
  if position = 0 then none else text[position - 1]?

def Task.step (program : Array Instr) (text : Array Char) (t : Task) : Progress :=
  let next := { t with address := t.address + 1 }
  match program[t.address]? with
  | none => .tasks []
  | some .accept => .found t.slots
  | some (.letter c) =>
    .tasks (if text[t.position]? = some c then [{ next with position := t.position + 1 }] else [])
  | some (.set s) =>
    .tasks (if text[t.position]?.any s.contains then [{ next with position := t.position + 1 }]
      else [])
  | some (.look k) =>
    .tasks (if k.holds (charBefore text t.position) text[t.position]? then [next] else [])
  | some (.save slot) =>
    .tasks [{ next with slots := t.slots.setIfInBounds slot (some t.position) }]
  | some (.fork targets) => .tasks (targets.map fun a => { t with address := a })

/-- Works on tasks in order until one accepts.  Gives what was found and what has been visited. -/
def explore (program : Array Instr) (text : Array Char) (visited : Array Bool) :
    List Task → Option Slots × Array Bool
  | [] => (none, visited)
  | t :: rest =>
    let place := t.address * (text.size + 1) + t.position
    if h : place < visited.size then
      if hv : visited[place] then explore program text visited rest
      else
        match t.step program text with
        | .found slots => (some slots, visited)
        | .tasks next => explore program text (visited.set place true) (next ++ rest)
    else explore program text visited rest
termination_by tasks => (visited.count false, tasks.length)
decreasing_by
  · exact Prod.Lex.right _ (by simp)
  · apply Prod.Lex.left
    have hf : visited[place] = false := by simpa using hv
    have hpos : 0 < visited.count false := by
      rw [Array.count_pos_iff, ← hf]
      exact Array.getElem_mem h
    rw [Array.count_set]
    simp only [show visited[t.address * (text.size + 1) + t.position] = false from hf]
    simp only [BEq.rfl, if_true, Bool.true_beq, Bool.false_eq_true, if_false]
    omega
  · exact Prod.Lex.right _ (by simp)

/-- Searches from a position on, for so many positions. -/
def searchFrom (program : Array Instr) (text : Array Char) (slots : Nat) :
    Nat → Nat → Array Bool → Option Slots
  | 0, _, _ => none
  | n + 1, start, visited =>
    match explore program text visited [⟨0, start, Array.replicate slots none⟩] with
    | (some found, _) => some found
    | (none, visited) => searchFrom program text slots n (start + 1) visited

def search (program : Array Instr) (slots : Nat) (text : Array Char) : Option Slots :=
  searchFrom program text slots (text.size + 1) 0
    (Array.replicate (program.size * (text.size + 1)) false)

theorem size_step {program : Array Instr} {text : Array Char} {t : Task} {n : Nat}
    (ht : t.slots.size = n) :
    match t.step program text with
    | .found slots => slots.size = n
    | .tasks next => ∀ u ∈ next, u.slots.size = n := by
  unfold Task.step
  cases program[t.address]? with
  | none => simp
  | some i => cases i <;> simp [ht]

theorem size_of_explore {program : Array Instr} {text : Array Char} {visited : Array Bool}
    {tasks : List Task} {n : Nat} (ht : ∀ t ∈ tasks, t.slots.size = n) {slots : Slots}
    (h : (explore program text visited tasks).1 = some slots) : slots.size = n := by
  fun_induction explore program text visited tasks with
  | case1 => simp at h
  | case2 visited t rest place hp hv ih => exact ih (fun u hu => ht u (by simp [hu])) h
  | case3 visited t rest place hp hv found hs =>
    have := @size_step program text t n (ht t (by simp))
    simp only [hs] at this
    simp_all
  | case4 visited t rest place hp hv next hs ih =>
    have := @size_step program text t n (ht t (by simp))
    simp only [hs] at this
    refine ih (fun u hu => ?_) h
    rcases List.mem_append.mp hu with hu | hu
    · exact this u hu
    · exact ht u (by simp [hu])
  | case5 visited t rest place hp ih => exact ih (fun u hu => ht u (by simp [hu])) h

theorem size_of_searchFrom {program : Array Instr} {text : Array Char} {n count start : Nat}
    {visited : Array Bool} {slots : Slots}
    (h : searchFrom program text n count start visited = some slots) : slots.size = n := by
  induction count generalizing start visited with
  | zero => simp [searchFrom] at h
  | succ count ih =>
    rw [searchFrom] at h
    split at h
    · rename_i found visited' he
      refine @size_of_explore program text visited [⟨0, start, Array.replicate n none⟩] n
        (by simp) slots ?_
      simp_all
    · exact ih h

/-- A match fills exactly the slots that the search was given. -/
theorem size_of_search {program : Array Instr} {n : Nat} {text : Array Char} {slots : Slots}
    (h : search program n text = some slots) : slots.size = n := size_of_searchFrom h

end Regex
end EnvelopeRules
