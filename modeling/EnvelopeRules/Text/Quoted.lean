import EnvelopeRules.Text.CharData
import EnvelopeRules.Text.CharSet

/-!
# Quoted texts

A quoted text stands between double quotes.  Characters without a shape of their own, among them
those that join the character before, are written as their number in braces.
-/

namespace EnvelopeRules
namespace Quoted

/-- Characters that extend the one before. -/
def extending : CharSet := CharSet.ofLines CharData.extendingRanges

def shapeless : CharSet := CharSet.ofLines CharData.shapelessRanges

def escapedByNumber : CharSet := extending.union shapeless

def numbered (c : Char) : List Char :=
  '\\' :: 'u' :: '{' :: Nat.toDigits 16 c.toNat ++ ['}']

def encodeChar (c : Char) : List Char :=
  match c with
  | '\x00' => "\\0".toList
  | '\t' => "\\t".toList
  | '\r' => "\\r".toList
  | '\n' => "\\n".toList
  | '"' => "\\\"".toList
  | '\\' => "\\\\".toList
  | c => if escapedByNumber.contains c then numbered c else [c]

def encode (text : String) : String :=
  String.ofList ('"' :: text.toList.flatMap encodeChar ++ ['"'])

end Quoted
end EnvelopeRules
