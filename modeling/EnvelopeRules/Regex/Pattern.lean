import EnvelopeRules.Text.CharSet

/-!
# Patterns

A pattern says what is matched, with flags and names of classes resolved.  The functions that join
patterns simplify them: neighbouring literals are one, choices between single characters are a set,
and branches that begin alike share their beginning.
-/

namespace EnvelopeRules
namespace Regex

/-- Where a word begins or ends. -/
inductive WordEdge where
  | boundary | inside | start | finish | startHalf | finishHalf
  deriving DecidableEq, Repr

/-- A condition on a position. -/
inductive Look where
  | textStart | textEnd | lineStart | lineEnd | lineStartCrlf | lineEndCrlf
  | word (unicode : Bool) (edge : WordEdge)
  deriving DecidableEq, Repr

/-- A set is bytewise if it was asked for with the Unicode flag off; it matches the same characters
then, but it is not the same part as a set that is not bytewise. -/
inductive Pattern where
  | empty
  | literal (text : List Char)
  | set (members : CharSet) (bytewise : Bool)
  | look (kind : Look)
  | repetition (min : Nat) (max : Option Nat) (greedy : Bool) (body : Pattern)
  | capture (index : Nat) (body : Pattern)
  | concat (parts : List Pattern)
  | alternation (branches : List Pattern)

namespace Pattern

instance : Inhabited Pattern := ⟨.empty⟩

mutual

def same : Pattern → Pattern → Bool
  | .empty, .empty => true
  | .literal s, .literal t => s == t
  | .set s bytewise, .set t bytewise' => s == t && bytewise == bytewise'
  | .look k, .look l => k == l
  | .repetition min max greedy p, .repetition min' max' greedy' q =>
    min == min' && max == max' && greedy == greedy' && same p q
  | .capture i p, .capture j q => i == j && same p q
  | .concat ps, .concat qs => allSame ps qs
  | .alternation ps, .alternation qs => allSame ps qs
  | _, _ => false

def allSame : List Pattern → List Pattern → Bool
  | [], [] => true
  | p :: ps, q :: qs => same p q && allSame ps qs
  | _, _ => false

end

mutual

/-- The highest number of a group; a group that was repeated no times is not part of the pattern. -/
def groups : Pattern → Nat
  | .repetition _ _ _ p => groups p
  | .capture i p => max i (groups p)
  | .concat ps => groupsOfAll ps
  | .alternation ps => groupsOfAll ps
  | _ => 0

def groupsOfAll : List Pattern → Nat
  | [] => 0
  | p :: ps => max (groups p) (groupsOfAll ps)

end

mutual

/-- The conditions on positions anywhere in the pattern. -/
def looks : Pattern → List Look
  | .look k => [k]
  | .repetition _ _ _ p => looks p
  | .capture _ p => looks p
  | .concat ps => looksOfAll ps
  | .alternation ps => looksOfAll ps
  | _ => []

def looksOfAll : List Pattern → List Look
  | [] => []
  | p :: ps => looks p ++ looksOfAll ps

end

/-! ## Lengths in bytes -/

def utf8Length (text : List Char) : Nat := (String.ofList text).utf8ByteSize

def utf8Size (code : Nat) : Nat :=
  if code ≤ 0x7F then 1 else if code ≤ 0x7FF then 2 else if code ≤ 0xFFFF then 3 else 4

mutual

/-- The shortest length of a match, if any match is possible. -/
def minLength? : Pattern → Option Nat
  | .empty => some 0
  | .literal text => some (utf8Length text)
  | .set s _ => s.ranges.head?.map fun r => utf8Size r.1
  | .look _ => some 0
  | .repetition min _ _ p => (minLength? p).map (· * min)
  | .capture _ p => minLength? p
  | .concat ps => minLengthConcat? ps
  | .alternation ps => minLengthChoice? ps

def minLengthConcat? : List Pattern → Option Nat
  | [] => some 0
  | p :: ps => do return (← minLength? p) + (← minLengthConcat? ps)

def minLengthChoice? : List Pattern → Option Nat
  | [] => none
  | [p] => minLength? p
  | p :: ps => do return min (← minLength? p) (← minLengthChoice? ps)

end

mutual

/-- The longest length of a match, if there is a bound and any match is possible. -/
def maxLength? : Pattern → Option Nat
  | .empty => some 0
  | .literal text => some (utf8Length text)
  | .set s _ => s.ranges.getLast?.map fun r => utf8Size r.2
  | .look _ => some 0
  | .repetition _ max _ p => do return (← max) * (← maxLength? p)
  | .capture _ p => maxLength? p
  | .concat ps => maxLengthConcat? ps
  | .alternation ps => maxLengthChoice? ps

def maxLengthConcat? : List Pattern → Option Nat
  | [] => some 0
  | p :: ps => do return (← maxLength? p) + (← maxLengthConcat? ps)

def maxLengthChoice? : List Pattern → Option Nat
  | [] => none
  | [p] => maxLength? p
  | p :: ps => do return max (← maxLength? p) (← maxLengthChoice? ps)

end

/-- Whether nothing keeps a match from being empty. -/
def canBeEmpty (p : Pattern) : Bool :=
  match p.minLength? with
  | some n => n == 0
  | none => true

/-! ## Joining patterns -/

/-- The pattern of a set of characters. -/
def ofSet (s : CharSet) (bytewise : Bool) : Pattern :=
  match s.single? with
  | some c => .literal [c]
  | none => .set s (bytewise && !s.isEmpty)

/-- A repetition; what only matches the empty text is repeated once at most. -/
def ofRepetition (min : Nat) (max : Option Nat) (greedy : Bool) (body : Pattern) : Pattern :=
  let blank := body.maxLength? == some 0
  let low := if blank then Nat.min min 1 else min
  let high := if blank then some ((max.map (Nat.min · 1)).getD 1) else max
  if low = 0 ∧ high = some 0 then .empty
  else if low = 1 ∧ high = some 1 then body
  else .repetition low high greedy body

/-- The parts that a pattern brings into a sequence. -/
def partsOf : Pattern → List Pattern
  | .empty => []
  | .concat ps => ps
  | p => [p]

def joinLiterals : List Pattern → List Pattern
  | [] => []
  | p :: ps =>
    match p, joinLiterals ps with
    | .literal s, .literal t :: rest => .literal (s ++ t) :: rest
    | p, rest => p :: rest

def ofConcat (ps : List Pattern) : Pattern :=
  match joinLiterals (ps.flatMap partsOf) with
  | [] => .empty
  | [p] => p
  | ps => .concat ps

def branchesOf : Pattern → List Pattern
  | .alternation ps => ps
  | p => [p]

def letter? : Pattern → Option Char
  | .literal [c] => some c
  | _ => none

def members? : Pattern → Option CharSet
  | .set s _ => some s
  | _ => none

/-- A choice; branches that are all single characters or all sets make one set. -/
def ofBranches (ps : List Pattern) : Pattern :=
  match ps.flatMap branchesOf with
  | [] => .set .empty false
  | [p] => p
  | ps =>
    match ps.mapM letter? with
    | some cs => ofSet (CharSet.unions (cs.map CharSet.singleton)) false
    | none =>
      match ps.mapM members? with
      | some sets => ofSet (CharSet.unions sets) false
      | none => .alternation ps

def sequence? : Pattern → Option (List Pattern)
  | .concat ps => some ps
  | _ => none

def commonLength (ps qs : List Pattern) : Nat :=
  ((ps.zip qs).takeWhile fun pq => same pq.1 pq.2).length

/-- A choice whose branches share the parts that all of them begin with. -/
def ofAlternation (ps : List Pattern) : Pattern :=
  match ofBranches ps with
  | .alternation ps =>
    match ps.mapM sequence? with
    | some (first :: others) =>
      let shared := others.foldl (fun n qs => min n (commonLength first qs)) first.length
      if shared = 0 then .alternation ps
      else
        let rests := (first :: others).map fun qs => ofConcat (qs.drop shared)
        ofConcat (first.take shared ++ [ofBranches rests])
    | _ => .alternation ps
  | p => p

/-! ## Assertions that every match obeys -/

mutual

/-- Whether a condition on the position holds before every match. -/
def startsWith (kind : Look) : Pattern → Bool
  | .look k => k == kind
  | .repetition min _ _ p => min != 0 && startsWith kind p
  | .capture _ p => startsWith kind p
  | .concat ps => someStartsWith kind ps
  | .alternation ps => !ps.isEmpty && allStartWith kind ps
  | _ => false

def someStartsWith (kind : Look) : List Pattern → Bool
  | [] => false
  | p :: ps => startsWith kind p || (maxLength? p == some 0 && someStartsWith kind ps)

def allStartWith (kind : Look) : List Pattern → Bool
  | [] => true
  | p :: ps => startsWith kind p && allStartWith kind ps

end

mutual

/-- Whether a condition on the position holds after every match. -/
def endsWith (kind : Look) : Pattern → Bool
  | .look k => k == kind
  | .repetition min _ _ p => min != 0 && endsWith kind p
  | .capture _ p => endsWith kind p
  | .concat ps => (someEndsWith kind ps).1
  | .alternation ps => !ps.isEmpty && allEndWith kind ps
  | _ => false

/-- Whether the condition holds after the sequence, and whether the sequence is without width. -/
def someEndsWith (kind : Look) : List Pattern → Bool × Bool
  | [] => (false, true)
  | p :: ps =>
    let rest := someEndsWith kind ps
    (rest.1 || (rest.2 && endsWith kind p), rest.2 && maxLength? p == some 0)

def allEndWith (kind : Look) : List Pattern → Bool
  | [] => true
  | p :: ps => endsWith kind p && allEndWith kind ps

end

end Pattern
end Regex
end EnvelopeRules
