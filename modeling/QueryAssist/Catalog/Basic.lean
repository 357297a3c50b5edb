import QueryAssist.Catalog.Error
import QueryAssist.Schema.Table

/-!
# Catalogs

A catalog answers questions about the databases of a connection, and each question may fail.  The
answers are functions of the arguments.  Two questions are optional: a catalog need not know
primary keys and indexes.
-/

namespace QueryAssist

/-- The kinds of questions that a catalog answers. -/
inductive Endpoint where
  | databases
  | tables
  | columns
  | primaryKey
  | indexes
  deriving DecidableEq, Repr

namespace Endpoint

/-- All kinds of questions. -/
def all : List Endpoint :=
  [databases, tables, columns, primaryKey, indexes]

/-- Whether every catalog answers questions of a kind itself. -/
def isRequired : Endpoint → Bool
  | databases | tables | columns => true
  | primaryKey | indexes => false

end Endpoint

/-- An answer of a catalog. -/
abbrev CatalogAnswer (α : Type) := Except CatalogError α

/-- A source of metadata. -/
structure Catalog where
  /-- the names of the databases -/
  databases : CatalogAnswer (List String)
  /-- the names of the tables of a database -/
  tables (database : String) : CatalogAnswer (List String)
  /-- the columns of a table in their order -/
  columns (database table : String) : CatalogAnswer (List Column)
  /-- the columns of the primary key of a table, if the source reports them -/
  primaryKey (database table : String) : CatalogAnswer (Option (List String)) := .ok none
  /-- the indexes of a table, if the source reports them -/
  indexes (database table : String) : CatalogAnswer (Option (List Index)) := .ok none
  /-- how long an answer takes, in milliseconds -/
  latency : Nat := 0
  /-- the kinds of questions whose calls are counted -/
  counted : List Endpoint := []

namespace Catalog

/-- A catalog that leaves the optional questions to their default answers. -/
def requiredOnly (catalog : Catalog) : Catalog where
  databases := catalog.databases
  tables := catalog.tables
  columns := catalog.columns
  latency := catalog.latency
  counted := catalog.counted.filter Endpoint.isRequired

end Catalog

end QueryAssist
