/-!
# Braces
-/

namespace EnvelopeRules

/-- A text between braces. -/
def braced (text : String) : String := String.singleton '{' ++ text ++ String.singleton '}'

end EnvelopeRules
