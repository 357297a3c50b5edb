import QueryAssist.Schema.Table

/-!
# Schema documents

A schema written down in a document: databases, their tables, and what is known about each table.
-/

namespace QueryAssist

/-- A table in a schema document. -/
structure TableDocument where
  name : String
  columns : List Column := []
  primaryKey : Option (List String) := none
  indexes : Option (List Index) := none
  deriving DecidableEq, Repr

/-- A database in a schema document. -/
structure DatabaseDocument where
  name : String
  tables : List TableDocument := []
  deriving DecidableEq, Repr

/-- A schema document. -/
structure SchemaDocument where
  databases : List DatabaseDocument := []
  deriving DecidableEq, Repr

namespace SchemaDocument

/-- The first database with a name. -/
def findDatabase? (document : SchemaDocument) (name : String) : Option DatabaseDocument :=
  document.databases.find? (·.name == name)

end SchemaDocument

/-- The first table with a name. -/
def DatabaseDocument.findTable? (database : DatabaseDocument) (name : String) :
    Option TableDocument :=
  database.tables.find? (·.name == name)

end QueryAssist
