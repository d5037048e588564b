import EnvelopeRules.Text.CharSet

/-!
# Patterns as written

A tree holds what a pattern says, before its flags are applied.  Its depth is what the limit on
nesting counts.
-/

namespace EnvelopeRules
namespace Regex

inductive Flag where
  | ignoreCase | multiLine | dotAll | swapGreed | unicode | crlf | verbose
  deriving DecidableEq, Repr

/-- Flags that are switched on or off, in the order written. -/
abbrev FlagChange := List (Flag × Bool)

def FlagChange.state? (change : FlagChange) (flag : Flag) : Option Bool :=
  (change.find? fun item => item.1 = flag).map Prod.snd

inductive Assertion where
  | startLine | endLine | startText | endText
  | wordBoundary | notWordBoundary | wordStart | wordEnd | wordStartHalf | wordEndHalf
  deriving DecidableEq, Repr

inductive ShorthandClass where
  | digit | space | word
  deriving DecidableEq, Repr

inductive AsciiClass where
  | alnum | alpha | ascii | blank | cntrl | digit | graph | lower | print | punct | space | upper
  | word | xdigit
  deriving DecidableEq, Repr

/-- How a class of characters is asked for by name. -/
inductive ClassQuery where
  | named (name : List Char)
  | valued (property value : List Char)
  deriving DecidableEq, Repr

/-- A character; `byte` tells one written as a two-digit number. -/
structure Letter where
  char : Char
  byte : Bool
  deriving DecidableEq, Repr

inductive SetOp where
  | inter | diff | symmDiff
  deriving DecidableEq, Repr

mutual

inductive SetItem where
  | letter (l : Letter)
  | range (lo hi : Letter)
  | ascii (kind : AsciiClass) (negated : Bool)
  | unicode (query : ClassQuery) (negated : Bool)
  | shorthand (kind : ShorthandClass) (negated : Bool)
  | nested (negated : Bool) (inner : SetExpr)

inductive SetExpr where
  | union (items : List SetItem)
  | binary (op : SetOp) (lhs rhs : SetExpr)

end

inductive Tree where
  | empty
  | flags (change : FlagChange)
  | letter (l : Letter)
  | dot
  | assertion (kind : Assertion)
  | unicode (query : ClassQuery) (negated : Bool)
  | shorthand (kind : ShorthandClass) (negated : Bool)
  | set (negated : Bool) (inner : SetExpr)
  | repeated (min : Nat) (max : Option Nat) (greedy : Bool) (body : Tree)
  | group (change : FlagChange) (body : Tree)
  | capture (index : Nat) (body : Tree)
  | alternation (branches : List Tree)
  | concat (parts : List Tree)

mutual

def SetItem.depth : SetItem → Nat
  | .nested _ inner => inner.depth + 1
  | _ => 0

def SetExpr.depth : SetExpr → Nat
  | .union items => itemsDepth items + (if items.length ≤ 1 then 0 else 1)
  | .binary _ lhs rhs => max lhs.depth rhs.depth + 1

def itemsDepth : List SetItem → Nat
  | [] => 0
  | i :: rest => max i.depth (itemsDepth rest)

end

mutual

def Tree.depth : Tree → Nat
  | .set _ inner => inner.depth + 1
  | .repeated _ _ _ body => body.depth + 1
  | .group _ body => body.depth + 1
  | .capture _ body => body.depth + 1
  | .alternation branches => treesDepth branches + 1
  | .concat parts => treesDepth parts + 1
  | _ => 0

def treesDepth : List Tree → Nat
  | [] => 0
  | t :: rest => max t.depth (treesDepth rest)

end

/-- The sequence of some parts; nothing and one part need no sequence. -/
def Tree.ofParts : List Tree → Tree
  | [] => .empty
  | [t] => t
  | ts => .concat ts

/-- The choice between some branches. -/
def Tree.ofBranches : List Tree → Tree
  | [t] => t
  | ts => .alternation ts

end Regex
end EnvelopeRules
