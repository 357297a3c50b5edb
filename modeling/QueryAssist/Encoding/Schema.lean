import QueryAssist.Data.Decode
import QueryAssist.Schema.Basic
import QueryAssist.Schema.Document

/-!
# Schemas as data

How tables, schemas and schema documents are written as data, and read back.  A member that is
missing in the value is left out; an empty list is written.
-/

namespace QueryAssist

open Value

/-! ## Tables -/

namespace Column

/-- The fields of a column. -/
def shape : RecordShape :=
  ⟨"Column", [("name", .required), ("type", .required), ("nullable", .defaulted),
    ("default", .defaulted), ("comment", .defaulted)]⟩

/-- A column as data. -/
def encode (column : Column) : Value :=
  .record ([("name", .text column.name), ("type", .text column.dataType),
    ("nullable", .bool column.nullable)] ++ member? "default" .text column.defaultValue ++
    member? "comment" .text column.comment)

/-- Reads a column. -/
def decode (value : Value) : Decoded Column := do
  let members ← shape.members value
  let name ← Decoded.required members "name" asText
  let dataType ← Decoded.required members "type" asText
  let nullable ← Decoded.orDefault members "nullable" asBool false
  let defaultValue ← Decoded.optional members "default" asText
  let comment ← Decoded.optional members "comment" asText
  return { name, dataType, nullable, defaultValue, comment }

end Column

namespace Index

/-- The fields of an index. -/
def shape : RecordShape :=
  ⟨"Index", [("name", .required), ("columns", .required), ("unique", .defaulted)]⟩

/-- An index as data. -/
def encode (index : Index) : Value :=
  .record [("name", .text index.name), ("columns", .texts index.columns),
    ("unique", .bool index.unique)]

/-- Reads an index. -/
def decode (value : Value) : Decoded Index := do
  let members ← shape.members value
  let name ← Decoded.required members "name" asText
  let columns ← Decoded.required members "columns" (asList asText)
  let unique ← Decoded.orDefault members "unique" asBool false
  return { name, columns, unique }

end Index

/-- Columns as data. -/
def encodeColumns (columns : List Column) : Value :=
  .list (columns.map Column.encode)

/-- Indexes as data. -/
def encodeIndexes (indexes : List Index) : Value :=
  .list (indexes.map Index.encode)

namespace Table

/-- The fields of a table. -/
def shape : RecordShape :=
  ⟨"Table", [("database", .required), ("name", .required), ("columns", .defaulted),
    ("indexes", .defaulted), ("primary_key", .defaulted)]⟩

/-- A table as data. -/
def encode (table : Table) : Value :=
  .record ([("database", .text table.database), ("name", .text table.name),
    ("columns", encodeColumns table.columns)] ++ member? "indexes" encodeIndexes table.indexes ++
    member? "primary_key" .texts table.primaryKey)

/-- Reads a table. -/
def decode (value : Value) : Decoded Table := do
  let members ← shape.members value
  let database ← Decoded.required members "database" asText
  let name ← Decoded.required members "name" asText
  let columns ← Decoded.orDefault members "columns" (asList Column.decode) []
  let indexes ← Decoded.optional members "indexes" (asList Index.decode)
  let primaryKey ← Decoded.optional members "primary_key" (asList asText)
  return { database, name, columns, indexes, primaryKey }

end Table

/-! ## Schemas -/

namespace Schema

/-- The fields of a schema. -/
def shape : RecordShape :=
  ⟨"Schema", [("databases", .required), ("tables", .required),
    ("functions", .defaulted), ("keywords", .defaulted)]⟩

/-- A schema as data. -/
def encode (schema : Schema) : Value :=
  .record [("databases", .texts schema.databases.keys),
    ("tables", .record (schema.tables.entries.map fun (key, table) => (key, table.encode))),
    ("functions", .texts schema.functions), ("keywords", .texts schema.keywords)]

/-- Reads a schema. -/
def decode (value : Value) : Decoded Schema := do
  let members ← shape.members value
  let databases ← Decoded.required members "databases" (asList asText)
  let tables ← Decoded.required members "tables" (asMembers Table.decode)
  let functions ← Decoded.orDefault members "functions" (asList asText) []
  let keywords ← Decoded.orDefault members "keywords" (asList asText) []
  return {
    databases := NameSet.ofNames databases
    tables := Dictionary.ofList tables
    functions
    keywords }

end Schema

/-! ## Schema documents -/

namespace TableDocument

/-- The fields of a table in a document. -/
def shape : RecordShape :=
  ⟨"TableDocument", [("name", .required), ("columns", .defaulted),
    ("primary_key", .defaulted), ("indexes", .defaulted)]⟩

/-- A table of a document as data. -/
def encode (table : TableDocument) : Value :=
  .record ([("name", .text table.name), ("columns", encodeColumns table.columns)] ++
    member? "primary_key" .texts table.primaryKey ++
    member? "indexes" encodeIndexes table.indexes)

/-- Reads a table of a document. -/
def decode (value : Value) : Decoded TableDocument := do
  let members ← shape.members value
  let name ← Decoded.required members "name" asText
  let columns ← Decoded.orDefault members "columns" (asList Column.decode) []
  let primaryKey ← Decoded.optional members "primary_key" (asList asText)
  let indexes ← Decoded.optional members "indexes" (asList Index.decode)
  return { name, columns, primaryKey, indexes }

end TableDocument

namespace DatabaseDocument

/-- The fields of a database in a document. -/
def shape : RecordShape :=
  ⟨"DatabaseDocument", [("name", .required), ("tables", .defaulted)]⟩

/-- A database of a document as data. -/
def encode (database : DatabaseDocument) : Value :=
  .record [("name", .text database.name),
    ("tables", .list (database.tables.map TableDocument.encode))]

/-- Reads a database of a document. -/
def decode (value : Value) : Decoded DatabaseDocument := do
  let members ← shape.members value
  let name ← Decoded.required members "name" asText
  let tables ← Decoded.orDefault members "tables" (asList TableDocument.decode) []
  return { name, tables }

end DatabaseDocument

namespace SchemaDocument

/-- The fields of a schema document. -/
def shape : RecordShape :=
  ⟨"SchemaDocument", [("databases", .defaulted)]⟩

/-- A schema document as data. -/
def encode (document : SchemaDocument) : Value :=
  .record [("databases", .list (document.databases.map DatabaseDocument.encode))]

/-- Reads a schema document. -/
def decode (value : Value) : Decoded SchemaDocument := do
  let members ← shape.members value
  let databases ← Decoded.orDefault members "databases" (asList DatabaseDocument.decode) []
  return { databases }

end SchemaDocument

end QueryAssist
