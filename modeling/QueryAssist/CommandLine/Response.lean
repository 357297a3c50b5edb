import QueryAssist.Cache.Connection
import QueryAssist.Catalog.Document
import QueryAssist.CommandLine.Arguments
import QueryAssist.Data.Json.Writer
import QueryAssist.Encoding.Suggestion
import QueryAssist.Settings.Basic

/-!
# Responses of the command line

The program prints the completion list for a cursor in a text.  The cursor stands at the end of the
text, or at the end of a line, unless it is said where.
-/

namespace QueryAssist

open Text

namespace CommandLine

/-- Why there is no completion list. -/
inductive Failure where
  /-- the schema document cannot be loaded -/
  | schema (path : String) (error : CatalogError)
  | settings (error : SettingsError)
  deriving DecidableEq, Repr

/-- The wording of a failure. -/
def Failure.message : Failure → String
  | schema path error =>
    "Error: failed to load schema from " ++ path ++ "\n\nCaused by:\n    " ++ error.message
  | settings error => "Error: " ++ error.message

/-! ## The cursor -/

namespace Arguments

/-- The position of the cursor in a text. -/
def cursor (arguments : Arguments) (text : String) : Position :=
  let atEnd := endPosition text
  match arguments.line, arguments.column with
  | line?, some column => ⟨line?.getD atEnd.line, column⟩
  | none, none => atEnd
  | some line, none => ⟨line, UInt32.ofNat (lineLength (line.toNat - 1) text.toList + 1)⟩

end Arguments

/-! ## The completion list -/

/-- The name of the file at a path. -/
def fileName (path : String) : String :=
  String.ofList ((path.toList.reverse.takeWhile (· != '/')).reverse)

/-- Loads the schema document that was asked for; `content` is what its file holds. -/
def loadSchema (arguments : Arguments) (content : Except String String) :
    Except Failure SchemaDocument :=
  match arguments.schema with
  | none => .ok {}
  | some path => (SchemaDocument.load (fileName path) content).mapError (.schema path)

/-- How long the schema stays fresh, in milliseconds. -/
def timeout : Nat :=
  300000

/-- The completion list for a text. -/
def complete (arguments : Arguments) (text : String) (content : Except String String) :
    Except Failure (List Suggestion) := do
  let document ← loadSchema arguments content
  let dialect ← (Dialect.ofName arguments.dialect).mapError .settings
  let engine : Engine := { dialect, database := arguments.database, limit := arguments.limit }
  let connection := Cache.Connection.create "cli" (Catalog.ofDocument document) timeout 0
  return (connection.complete engine text (arguments.cursor text)).2

/-- A completion list as it is printed. -/
def render (items : List Suggestion) : String :=
  Json.pretty (Suggestion.encodeList items) ++ "\n"

/-! ## Explanations -/

/-- The upper case name that stands for the value of an option. -/
def placeholder (flag : Flag) : String :=
  String.ofList (flag.name.toList.map Char.toUpper)

/-- The lines that explain the options, each with the option and its explanation. -/
def explanations : List (String × String) :=
  (Flag.all.map fun flag =>
    ("      --" ++ flag.name ++ " <" ++ placeholder flag ++ ">", flag.explanation)) ++
    [("  -h, --help", "Print help"), ("  -V, --version", "Print version")]

/-- The explanation of the program. -/
def help : String :=
  let width := ((explanations.map fun line => line.1.length).foldl max 0) + 2
  let lines := explanations.map fun (option, text) =>
    option ++ String.ofList (List.replicate (width - option.length) ' ') ++ text ++ "\n"
  "Context-aware SQL completion provider with dialect adapters\n\n" ++
    "Usage: sql-complete [OPTIONS]\n\nOptions:\n" ++ String.join lines

/-- The version of the program. -/
def version : String :=
  "sql-complete 0.1.0\n"

end CommandLine

end QueryAssist
