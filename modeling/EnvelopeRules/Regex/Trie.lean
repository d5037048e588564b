/-!
# Choices between texts, sharing their beginnings

The branches of a node are kept in lists, in order of preference: where a text ends, the later
branches make a new list.  The newest list comes first.
-/

namespace EnvelopeRules
namespace Regex

inductive Trie where
  | node (lists : List (List (UInt8 × Trie)))

namespace Trie

def empty : Trie := .node [[]]

def isLeaf : Trie → Bool
  | .node lists => lists.all List.isEmpty

/-- Marks the end of a text. -/
def mark : Trie → Trie
  | .node lists =>
    if lists.all List.isEmpty && decide (1 < lists.length) then .node lists else .node ([] :: lists)

def child? (b : UInt8) (branches : List (UInt8 × Trie)) : Option Trie :=
  (branches.find? fun br => br.1 == b).map Prod.snd

def setChild (b : UInt8) (t : Trie) : List (UInt8 × Trie) → List (UInt8 × Trie)
  | [] => [(b, t)]
  | br :: rest => if br.1 == b then (b, t) :: rest else br :: setChild b t rest

def insert : List UInt8 → Trie → Trie
  | [], t => t.mark
  | b :: bs, .node lists =>
    let newest := lists.headD []
    let below := insert bs ((child? b newest).getD empty)
    .node (setChild b below newest :: lists.drop 1)

def ofTexts (texts : List (List UInt8)) : Trie := texts.foldl (fun t bs => t.insert bs) empty

end Trie
end Regex
end EnvelopeRules
