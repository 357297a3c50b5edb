import QueryAssist.Catalog.Basic
import QueryAssist.Data.Json.Reader
import QueryAssist.Data.Yaml.Reader
import QueryAssist.Encoding.Schema
import QueryAssist.Schema.Document

/-!
# Catalogs from schema documents

A schema document is read from JSON or YAML text and answers all questions at once.  The format of
a file is chosen by the extension of its name.
-/

namespace QueryAssist

/-! ## Answers -/

namespace SchemaDocument

/-- The database of a name in a document. -/
def database (document : SchemaDocument) (name : String) : CatalogAnswer DatabaseDocument :=
  match document.findDatabase? name with
  | some found => .ok found
  | none => .error (.databaseNotFound name)

/-- The table of a name in a database of a document. -/
def table (document : SchemaDocument) (database name : String) : CatalogAnswer TableDocument := do
  match (← document.database database).findTable? name with
  | some found => .ok found
  | none => .error (.tableNotFound name database)

end SchemaDocument

/-- The catalog that answers from a document. -/
def Catalog.ofDocument (document : SchemaDocument) : Catalog where
  databases := .ok (document.databases.map (·.name))
  tables database := (document.database database).map fun found => found.tables.map (·.name)
  columns database table := (document.table database table).map (·.columns)
  primaryKey database table := (document.table database table).map (·.primaryKey)
  indexes database table := (document.table database table).map (·.indexes)

/-! ## Reading -/

/-- The formats of schema documents. -/
inductive DocumentFormat where
  | json
  | yaml
  deriving DecidableEq, Repr

/-- The part of a file name after its last dot; there is none if no other character stands before
the dot. -/
def fileExtension? (name : List Char) : Option (List Char) :=
  if name = ['.', '.'] then none
  else
    let reversed := name.reverse
    match reversed.dropWhile (· != '.') with
    | [] | [_] => none
    | _ :: _ :: _ => some (reversed.takeWhile (· != '.')).reverse

/-- The format that the extension of a file name stands for. -/
def DocumentFormat.ofFileName (name : String) : CatalogAnswer DocumentFormat :=
  let extension := (fileExtension? name.toList).map String.ofList
  if extension = some "json" then .ok .json
  else if extension = some "yaml" ∨ extension = some "yml" then .ok .yaml
  else
    .error (.invalidConfiguration
      ("unrecognized schema file extension: " ++ extension.getD "<none>"))

namespace SchemaDocument

/-- The document that a value stands for. -/
def ofValue (value : Value) : CatalogAnswer SchemaDocument :=
  (decode value).mapError fun error => .unreadableDocument error.message

/-- Reads a document. -/
def read (format : DocumentFormat) (text : String) : CatalogAnswer SchemaDocument :=
  let value? :=
    match format with
    | .json => Json.parse? text
    | .yaml => Yaml.parse? text
  match value? with
  | some value => ofValue value
  | none => .error (.unreadableDocument "malformed text")

/-- Reads a document from a file, whose content may be out of reach. -/
def load (name : String) (content : Except String String) : CatalogAnswer SchemaDocument := do
  let text ← content.mapError .fileFailure
  read (← DocumentFormat.ofFileName name) text

end SchemaDocument

end QueryAssist
