import EnvelopeRules.Regex.Pattern

/-!
# Programs for matching

A program is a list of instructions; each goes on to the next one, a fork to the targets it names,
the preferred one first.  The code of a pattern leaves at its end.
-/

namespace EnvelopeRules
namespace Regex

inductive Instr where
  | letter (c : Char)
  | set (members : CharSet)
  | look (kind : Look)
  | save (slot : Nat)
  | fork (targets : List Nat)
  | accept

namespace Instr

/-- A fork that prefers its first target if greedy and its second one if not. -/
def choose (greedy : Bool) (again leave : Nat) : Instr :=
  .fork (if greedy then [again, leave] else [leave, again])

end Instr

/-- The same code some number of times in a row. -/
def codeTimes (code : Nat → List Instr) : Nat → Nat → List Instr
  | 0, _ => []
  | n + 1, at_ =>
    let first := code at_
    first ++ codeTimes code n (at_ + first.length)

/-- Optional repetitions, each of them inside the one before; `size` is the length of one copy. -/
def codeOptional (code : Nat → List Instr) (size leave : Nat) (greedy : Bool) :
    Nat → Nat → List Instr
  | 0, _ => []
  | n + 1, at_ =>
    Instr.choose greedy (at_ + 1) leave :: code (at_ + 1) ++
      codeOptional code size leave greedy n (at_ + 1 + size)

/-- The length of the code of a repetition, from that of its body. -/
def repetitionLength (min : Nat) (max : Option Nat) (size : Nat) : Nat :=
  match max with
  | none => if min = 0 then size + 2 else min * size + 1
  | some high => min * size + (high - min) * (size + 1)

/-- A repetition, at an address, of code of some size. -/
def codeRepetition (min : Nat) (max : Option Nat) (greedy blank : Bool) (size : Nat)
    (code : Nat → List Instr) (at_ : Nat) : List Instr :=
  let leave := at_ + repetitionLength min max size
  match max with
  | none =>
    if min = 0 then
      let again := if blank then Instr.choose greedy (at_ + 1) leave else .fork [at_]
      Instr.choose greedy (at_ + 1) leave :: code (at_ + 1) ++ [again]
    else codeTimes code min at_ ++ [Instr.choose greedy (at_ + (min - 1) * size) leave]
  | some high =>
    codeTimes code min at_ ++
      codeOptional code size leave greedy (high - min) (at_ + min * size)

mutual

/-- The number of instructions of a pattern. -/
def codeLength : Pattern → Nat
  | .empty => 0
  | .literal text => text.length
  | .set _ _ => 1
  | .look _ => 1
  | .repetition min max _ body => repetitionLength min max (codeLength body)
  | .capture _ body => codeLength body + 2
  | .concat parts => codeLengthAll parts
  | .alternation branches => codeLengthAll branches + branches.length + 1

def codeLengthAll : List Pattern → Nat
  | [] => 0
  | p :: ps => codeLength p + codeLengthAll ps

end

/-- Where branches begin, if the first one stands at an address and each is followed by a jump. -/
def branchStarts : Nat → List Pattern → List Nat
  | _, [] => []
  | at_, p :: ps => at_ :: branchStarts (at_ + codeLength p + 1) ps

mutual

/-- The code of a pattern at an address. -/
def code : Pattern → Nat → List Instr
  | .empty, _ => []
  | .literal text, _ => text.map .letter
  | .set s _, _ => [.set s]
  | .look k, _ => [.look k]
  | .repetition min max greedy body, at_ =>
    codeRepetition min max greedy body.canBeEmpty (codeLength body) (code body) at_
  | .capture index body, at_ =>
    .save (2 * index) :: code body (at_ + 1) ++ [.save (2 * index + 1)]
  | .concat parts, at_ => codeAll parts at_
  | .alternation branches, at_ =>
    let leave := at_ + codeLengthAll branches + branches.length + 1
    .fork (branchStarts (at_ + 1) branches) :: codeBranches branches leave (at_ + 1)

def codeAll : List Pattern → Nat → List Instr
  | [], _ => []
  | p :: ps, at_ => code p at_ ++ codeAll ps (at_ + codeLength p)

/-- The branches one after another, each followed by a jump to where the choice ends. -/
def codeBranches : List Pattern → Nat → Nat → List Instr
  | [], _, _ => []
  | p :: ps, leave, at_ =>
    code p at_ ++ .fork [leave] :: codeBranches ps leave (at_ + codeLength p + 1)

end

/-- The program that matches a pattern and saves where the match begins and ends. -/
def program (p : Pattern) : List Instr := code (.capture 0 p) 0 ++ [.accept]

end Regex
end EnvelopeRules
