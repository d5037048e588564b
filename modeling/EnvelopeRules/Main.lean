import EnvelopeRules.Check

/-!
# The command line

Reads the settings, the environment and the document, and prints what the run reports.
-/

namespace EnvelopeRules
namespace CommandLine

def settingsPaths : List String := ["./mailrule.toml", "/etc/mailrule/mailrule.toml"]

def failureOf : IO.Error → ReadFailure
  | .noFileOrDirectory _ _ _ => .missing
  | .inappropriateType _ _ _ => .isDirectory
  | e => .other e.toString

def readText (path : String) : IO (Except ReadFailure String) := do
  try
    return .ok (← IO.FS.readFile path)
  catch e => return .error (failureOf e)

/-- What came of reading the first file that is there. -/
def readFirst : List String → IO (Option (Except ReadFailure String))
  | [] => return none
  | path :: rest => do
    match ← readText path with
    | .error .missing => readFirst rest
    | found => return some found

/-- The variables of the environment. -/
def environment : IO (List (String × String)) := do
  match ← readText "/proc/self/environ" with
  | .error _ => return []
  | .ok text =>
    return (text.splitOn (String.ofList [Char.ofNat 0])).filterMap fun v =>
      match v.splitOn "=" with
      | name :: value => if name.isEmpty then none else some (name, String.intercalate "=" value)
      | [] => none

/-- The path of the document, which depends on the settings. -/
def documentPath (settingsFile : Option (Except ReadFailure String))
    (environment : List (String × String)) (arguments : List String) : Option String :=
  match Settings.load settingsFile environment with
  | .ok s => some (Check.rulesPath s arguments)
  | .error _ => none

end CommandLine
end EnvelopeRules

open EnvelopeRules CommandLine in
def main (arguments : List String) : IO UInt32 := do
  let settingsFile ← readFirst settingsPaths
  let environment ← environment
  let document ← match documentPath settingsFile environment arguments with
    | some path => readText path
    | none => pure (.error .missing)
  let r := Check.run ⟨settingsFile, environment, arguments, fun _ => document⟩
  for line in r.logLines do
    IO.println line
  for line in r.errorLines do
    IO.eprintln line
  return UInt32.ofNat r.exitCode
