import QueryAssist.Suggestion.Engine
import QueryAssist.Text.Blank

/-!
# Settings

The settings of one completion session: the dialect, the connection whose schema is used, and how
long a fetched schema stays fresh.
-/

namespace QueryAssist

open Text

/-- The characters after which an editor asks for completions, if nothing else is said. -/
def Settings.defaultTriggers : List Char :=
  ['.', ' ', '(']

/-- The settings of a session. -/
structure Settings where
  dialect : Dialect
  connectionId : String := "default"
  /-- the current database; tables of other databases get qualified entries -/
  currentDatabase : Option String := none
  /-- how long a fetched schema stays fresh, in seconds -/
  cacheTimeout : Nat := 300
  /-- the characters after which an editor asks for completions -/
  triggers : List Char := Settings.defaultTriggers
  /-- the greatest length of a completion list -/
  maxItems : Option Nat := none
  deriving DecidableEq, Repr

/-- Why settings cannot be used. -/
inductive SettingsError where
  | unsupportedDialect (name : String)
  | invalidCacheTimeout
  | missingConnectionId
  /-- settings that cannot be read -/
  | unreadable (reason : String)
  /-- a file that cannot be read -/
  | fileFailure (reason : String)
  deriving DecidableEq, Repr

/-- The wording of an error. -/
def SettingsError.message : SettingsError → String
  | unsupportedDialect name => "unsupported database type: " ++ name
  | invalidCacheTimeout => "cache timeout must be greater than zero"
  | missingConnectionId => "connection id is required"
  | unreadable reason => "invalid configuration: " ++ reason
  | fileFailure reason => "failed to read configuration: " ++ reason

/-- The dialect that a name stands for. -/
def Dialect.ofName (name : String) : Except SettingsError Dialect :=
  match Dialect.ofName? name with
  | some dialect => .ok dialect
  | none => .error (.unsupportedDialect name)

namespace Settings

/-- Settings are valid if a schema stays fresh for some time and the connection has an id that is
not blank. -/
def validate (settings : Settings) : Except SettingsError Unit :=
  if settings.cacheTimeout = 0 then .error .invalidCacheTimeout
  else if isAllBlank settings.connectionId.toList then .error .missingConnectionId
  else .ok ()

/-- The settings, if they are valid. -/
def validated (settings : Settings) : Except SettingsError Settings := do
  settings.validate
  return settings

/-- The engine of a session; only valid settings have one. -/
def engine (settings : Settings) : Except SettingsError Engine := do
  settings.validate
  return {
    dialect := settings.dialect
    database := settings.currentDatabase
    limit := settings.maxItems }

end Settings

end QueryAssist
