import QueryAssist.Encoding.Dialect
import QueryAssist.Settings.Basic

/-!
# Settings as data
-/

namespace QueryAssist

open Value

namespace SettingsError

/-- The name of the kind of an error. -/
def kind : SettingsError → String
  | unsupportedDialect _ => "UnsupportedDialect"
  | invalidCacheTimeout => "InvalidCacheTimeout"
  | missingConnectionId => "MissingConnectionId"
  | unreadable _ => "Parse"
  | fileFailure _ => "Io"

end SettingsError

/-- Settings as data; what is not set is null. -/
def Settings.encode (settings : Settings) : Value :=
  .record [("dialect", settings.dialect.encode), ("connection_id", .text settings.connectionId),
    ("current_database", orNull .text settings.currentDatabase),
    ("cache_timeout_secs", .natural settings.cacheTimeout),
    ("trigger_characters", .texts (settings.triggers.map fun c => String.ofList [c])),
    ("max_items", orNull .natural settings.maxItems)]

end QueryAssist
