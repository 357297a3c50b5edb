import QueryAssist.Data.Decode
import QueryAssist.Data.Word
import QueryAssist.Data.Yaml.Reader
import QueryAssist.Settings.Basic
import QueryAssist.Text.Dictionary

/-!
# Reading settings

Settings are a section of the settings of an editor, or a YAML document of their own.  The members
of a section are read in the order of their names and the first bad one is reported; a missing
dialect is reported only if all members are good.  What is left out has its default value.
-/

namespace QueryAssist

open Text Value

namespace Settings

/-- Settings as they are written, before defaults are filled in. -/
structure Draft where
  dialectName : Option String := none
  connectionId : Option String := none
  currentDatabase : Option String := none
  cacheTimeout : Option Nat := none
  triggers : Option (List Char) := none
  maxItems : Option Nat := none
  deriving DecidableEq, Repr

/-- The fields of written settings. -/
def shape : RecordShape :=
  ⟨"RawConfig", [("databaseType", .required), ("connectionId", .defaulted),
    ("currentDatabase", .defaulted), ("cacheTimeoutSecs", .defaulted),
    ("triggerCharacters", .defaulted), ("maxItems", .defaulted)]⟩

namespace Draft

/-- Reads one member. -/
def set (draft : Draft) (name : String) (value : Value) : Decoded Draft :=
  if name = "databaseType" then
    (fun s => { draft with dialectName := some s }) <$> asText value
  else if name = "connectionId" then
    (fun s => { draft with connectionId := s }) <$> asOption asText value
  else if name = "currentDatabase" then
    (fun s => { draft with currentDatabase := s }) <$> asOption asText value
  else if name = "cacheTimeoutSecs" then
    (fun n => { draft with cacheTimeout := n }) <$> asOption (asBelow Word.bound64 "u64") value
  else if name = "triggerCharacters" then
    (fun cs => { draft with triggers := cs }) <$> asOption (asList asChar) value
  else if name = "maxItems" then
    (fun n => { draft with maxItems := n }) <$> asOption (asBelow Word.bound64 "usize") value
  else .ok draft

/-- Reads members one after the other. -/
def ofReadings (readings : List (Decoded (String × Value))) : Decoded Draft :=
  readings.foldlM (fun draft reading => do
    let (name, value) ← reading
    draft.set name value) {}

/-- Fills in defaults; the dialect must be there and be known. -/
def complete (draft : Draft) : Except SettingsError Settings := do
  let name ←
    match draft.dialectName with
    | some name => .ok name
    | none => .error (.unreadable (DecodeError.missingField "databaseType").message)
  let settings : Settings := { dialect := ← Dialect.ofName name }
  return { settings with
    connectionId := draft.connectionId.getD settings.connectionId
    currentDatabase := draft.currentDatabase
    cacheTimeout := draft.cacheTimeout.getD settings.cacheTimeout
    triggers := draft.triggers.getD settings.triggers
    maxItems := draft.maxItems }

end Draft

/-- Reads the settings of a session. -/
def ofValue (value : Value) : Except SettingsError Settings := do
  let draft ← (Draft.ofReadings (shape.readings value)).mapError fun error =>
    .unreadable error.message
  (← draft.complete).validated

/-- The name of the section of an editor's settings. -/
def sectionName : String :=
  "sqlComplete"

/-- A record with its members in the order of their names. -/
def sorted : Value → Value
  | .record members => .record (Dictionary.ofList members).entries
  | value => value

/-- Reads the section of an editor's settings. -/
def ofEditor (editorSettings : Value) : Except SettingsError Settings :=
  match editorSettings.get? sectionName with
  | some value => ofValue (sorted value)
  | none => .error (.unreadable ("missing \x60" ++ sectionName ++ "\x60 section"))

/-- Reads a YAML document with settings. -/
def ofYaml (text : String) : Except SettingsError Settings :=
  match Yaml.parse? text with
  | some value => ofValue value
  | none => .error (.unreadable "malformed text")

/-- Reads settings from a file, whose content may be out of reach. -/
def load (content : Except String String) : Except SettingsError Settings := do
  ofYaml (← content.mapError .fileFailure)

end Settings

end QueryAssist
