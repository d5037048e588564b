import EnvelopeRules.Document.Load

/-!
# Settings

How the program logs, where it finds its rules, and how it loads and evaluates them.
-/

namespace EnvelopeRules

structure LogSettings where
  level : String
  format : String

/-- Sizes are in bytes and times in milliseconds; no cache entries mean no cache. -/
structure EngineSettings where
  rulesPath : String
  timeout : Nat
  sizeLimit : Nat
  skipInvalid : Bool
  cacheEntries : Nat
  memberLife : Nat
  missLife : Nat

structure Settings where
  logging : LogSettings
  engine : EngineSettings

namespace Settings

def default : Settings where
  logging := ⟨"info", "json"⟩
  engine := {
    rulesPath := "/etc/mailrule/rules.toml"
    timeout := 1000
    sizeLimit := LoadOptions.defaultSizeLimit
    skipInvalid := false
    cacheEntries := 0
    memberLife := 86400000
    missLife := 3600000 }

end Settings

namespace EngineSettings

def cache? (s : EngineSettings) : Option CacheSettings :=
  if h : 0 < s.cacheEntries then some ⟨s.cacheEntries, s.memberLife, s.missLife, h⟩ else none

def loadOptions (s : EngineSettings) : LoadOptions := ⟨s.sizeLimit, s.skipInvalid, s.cache?⟩

end EngineSettings

/-- Why a file cannot be read. -/
inductive ReadFailure where
  | missing
  | isDirectory
  | notDirectory
  | other (reason : String)
  deriving DecidableEq, Repr

namespace ReadFailure

def message : ReadFailure → String
  | .missing => "No such file or directory (os error 2)"
  | .isDirectory => "Is a directory (os error 21)"
  | .notDirectory => "Not a directory (os error 20)"
  | .other reason => reason

end ReadFailure

inductive SettingsError where
  | unreadable (failure : ReadFailure)
  | malformed
  deriving DecidableEq, Repr

namespace SettingsError

def message : SettingsError → String
  | .unreadable failure => "Configuration error: Failed to read config file: " ++ failure.message
  | .malformed => "Configuration error"

def code : SettingsError → String
  | _ => "CONFIG_ERROR"

end SettingsError
end EnvelopeRules
