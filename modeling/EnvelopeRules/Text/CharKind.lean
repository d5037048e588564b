import EnvelopeRules.Text.CharData
import EnvelopeRules.Text.CharSet

/-!
# Kinds of characters

Letters and numbers of all scripts.
-/

namespace EnvelopeRules
namespace CharKind

def letters : CharSet := CharSet.ofLines CharData.alphabeticRanges

def numbers : CharSet := CharSet.ofLines CharData.numericRanges

def isLetter (c : Char) : Bool := letters.contains c

def isNumber (c : Char) : Bool := numbers.contains c

def isAlphanumeric (c : Char) : Bool := isLetter c || isNumber c

end CharKind
end EnvelopeRules
