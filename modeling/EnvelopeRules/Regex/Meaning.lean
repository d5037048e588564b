import EnvelopeRules.Regex.Tree
import EnvelopeRules.Regex.Pattern
import EnvelopeRules.Unicode.Classes

/-!
# What a pattern means

Flags apply from where they are set to the end of the group around them.  With the Unicode flag off,
only ASCII may be asked for, since a match must not end inside a character.
-/

namespace EnvelopeRules
namespace Regex

structure Flags where
  ignoreCase : Bool
  multiLine : Bool
  dotAll : Bool
  swapGreed : Bool
  unicode : Bool
  crlf : Bool

namespace Flags

def initial : Flags := ⟨false, false, false, false, true, false⟩

def set (f : Flags) : Flag × Bool → Flags
  | (.ignoreCase, on) => { f with ignoreCase := on }
  | (.multiLine, on) => { f with multiLine := on }
  | (.dotAll, on) => { f with dotAll := on }
  | (.swapGreed, on) => { f with swapGreed := on }
  | (.unicode, on) => { f with unicode := on }
  | (.crlf, on) => { f with crlf := on }
  | (.verbose, _) => f

def change (f : Flags) (c : FlagChange) : Flags := c.foldl set f

end Flags

/-! ## Classes -/

def asciiMembers : AsciiClass → CharSet
  | .alnum => .ofText "30-39 41-5a 61-7a"
  | .alpha => .ofText "41-5a 61-7a"
  | .ascii => .ofText "0-7f"
  | .blank => .ofText "9 20"
  | .cntrl => .ofText "0-1f 7f"
  | .digit => .ofText "30-39"
  | .graph => .ofText "21-7e"
  | .lower => .ofText "61-7a"
  | .print => .ofText "20-7e"
  | .punct => .ofText "21-2f 3a-40 5b-60 7b-7e"
  | .space => .ofText "9-d 20"
  | .upper => .ofText "41-5a"
  | .word => .ofText "30-39 41-5a 5f 61-7a"
  | .xdigit => .ofText "30-39 41-46 61-66"

def shorthandMembers (unicode : Bool) : ShorthandClass → CharSet
  | .digit => if unicode then Unicode.decimalDigit else asciiMembers .digit
  | .space => if unicode then Unicode.whiteSpace else asciiMembers .space
  | .word => if unicode then Unicode.word else asciiMembers .word

def ClassQuery.members? : ClassQuery → Option CharSet
  | .named name => Unicode.named? name
  | .valued property value => Unicode.valued? property value

/-- The set with both cases of its ASCII letters. -/
def closeUnderAsciiCase (s : CharSet) : CharSet :=
  let letters := s.toList.filter Char.isAlpha
  s.union (CharSet.unions (letters.map fun c =>
    (CharSet.singleton c.toLower).union (.singleton c.toUpper)))

def foldCase (f : Flags) (s : CharSet) : CharSet :=
  if !f.ignoreCase then s
  else if f.unicode then Unicode.closeUnderCase s else closeUnderAsciiCase s

/-- A set or its complement, if the flags allow to ask for it. -/
def negateSet (f : Flags) (negated : Bool) (s : CharSet) : Option CharSet :=
  let s := if negated then s.compl else s
  if f.unicode || s.isAscii then some s else none

/-- The set of a named class. -/
def classMembers? (f : Flags) (query : ClassQuery) (negated : Bool) : Option CharSet :=
  if f.unicode then do negateSet f negated (foldCase f (← query.members?)) else none

def SetOp.apply : SetOp → CharSet → CharSet → CharSet
  | .inter, a, b => a.inter b
  | .diff, a, b => a.diff b
  | .symmDiff, a, b => a.symmDiff b

/-- Whether a letter may stand in a set. -/
def letterAllowed (f : Flags) (l : Letter) : Bool := f.unicode || decide (l.char.toNat < 0x80)

mutual

def itemMembers? (f : Flags) : SetItem → Option CharSet
  | .letter l => if letterAllowed f l then some (.singleton l.char) else none
  | .range lo hi =>
    if letterAllowed f lo ∧ letterAllowed f hi then
      some (.ofRanges [(lo.char.toNat, hi.char.toNat)])
    else none
  | .ascii kind negated => negateSet f negated (foldCase f (asciiMembers kind))
  | .unicode query negated => classMembers? f query negated
  | .shorthand kind negated => negateSet f negated (shorthandMembers f.unicode kind)
  | .nested negated inner => do negateSet f negated (foldCase f (← exprMembers? f inner))

def exprMembers? (f : Flags) : SetExpr → Option CharSet
  | .union items => do return CharSet.unions (← allMembers? f items)
  | .binary op lhs rhs => do
    return op.apply (foldCase f (← exprMembers? f lhs)) (foldCase f (← exprMembers? f rhs))

def allMembers? (f : Flags) : List SetItem → Option (List CharSet)
  | [] => some []
  | i :: rest => do return (← itemMembers? f i) :: (← allMembers? f rest)

end

/-! ## Parts of a pattern -/

def letterMeaning? (f : Flags) (l : Letter) : Option Pattern :=
  let s := CharSet.singleton l.char
  if !f.unicode && l.byte && decide (0x80 ≤ l.char.toNat) then none
  else if !f.ignoreCase then some (.literal [l.char])
  else if f.unicode then
    some (if Unicode.hasCase l.char then .ofSet (Unicode.closeUnderCase s) false
      else .literal [l.char])
  else some (if l.char.isAlpha then .ofSet (closeUnderAsciiCase s) true else .literal [l.char])

def dotMeaning? (f : Flags) : Option Pattern :=
  if !f.unicode then none
  else if f.dotAll then some (.ofSet .all false)
  else if f.crlf then some (.ofSet (CharSet.compl (.ofText "a d")) false)
  else some (.ofSet (CharSet.compl (.ofText "a")) false)

def assertionLook (f : Flags) : Assertion → Look
  | .startLine =>
    if f.multiLine then (if f.crlf then .lineStartCrlf else .lineStart) else .textStart
  | .endLine => if f.multiLine then (if f.crlf then .lineEndCrlf else .lineEnd) else .textEnd
  | .startText => .textStart
  | .endText => .textEnd
  | .wordBoundary => .word f.unicode .boundary
  | .notWordBoundary => .word f.unicode .inside
  | .wordStart => .word f.unicode .start
  | .wordEnd => .word f.unicode .finish
  | .wordStartHalf => .word f.unicode .startHalf
  | .wordEndHalf => .word f.unicode .finishHalf

mutual

/-- The meaning of a tree, and the flags for what follows it. -/
def meaning? (f : Flags) : Tree → Option (Pattern × Flags)
  | .empty => some (.empty, f)
  | .flags change => some (.empty, f.change change)
  | .letter l => do return (← letterMeaning? f l, f)
  | .dot => do return (← dotMeaning? f, f)
  | .assertion kind => some (.look (assertionLook f kind), f)
  | .unicode query negated => do return (.ofSet (← classMembers? f query negated) false, f)
  | .shorthand kind negated => do
    return (.ofSet (← negateSet f negated (shorthandMembers f.unicode kind)) !f.unicode, f)
  | .set negated inner => do
    return (.ofSet (← negateSet f negated (foldCase f (← exprMembers? f inner))) !f.unicode, f)
  | .repeated min max greedy body => do
    let (p, g) ← meaning? f body
    return (.ofRepetition min max (greedy != g.swapGreed) p, g)
  | .group change body => do
    let (p, _) ← meaning? (f.change change) body
    return (p, f)
  | .capture index body => do
    let (p, _) ← meaning? f body
    return (.capture index p, f)
  | .alternation branches => do
    let (ps, g) ← meanings? f branches
    return (.ofAlternation ps, g)
  | .concat parts => do
    let (ps, g) ← meanings? f parts
    return (.ofConcat ps, g)

def meanings? (f : Flags) : List Tree → Option (List Pattern × Flags)
  | [] => some ([], f)
  | t :: rest => do
    let (p, g) ← meaning? f t
    let (ps, h) ← meanings? g rest
    return (p :: ps, h)

end

/-- The pattern of a tree that stands alone. -/
def Pattern.ofTree? (t : Tree) : Option Pattern := (meaning? .initial t).map Prod.fst

end Regex
end EnvelopeRules
