import QueryAssist.Text.Dotted

/-!
# Tables

What is known about the tables of a database: their columns, indexes and primary keys, and the
names a table goes by.
-/

namespace QueryAssist

open Text

/-- A column of a table. -/
structure Column where
  name : String
  /-- the type as the dialect writes it -/
  dataType : String
  nullable : Bool := false
  /-- the default value as an expression -/
  defaultValue : Option String := none
  comment : Option String := none
  deriving DecidableEq, Repr

/-- An index of a table. -/
structure Index where
  name : String
  columns : List String
  unique : Bool := false
  deriving DecidableEq, Repr

/-- A table with its columns in their order.  Indexes and primary key are missing when the source
does not report them, which is not the same as having none. -/
structure Table where
  database : String
  /-- the name as the source reports it; it may have a schema before its last dot -/
  name : String
  columns : List Column := []
  indexes : Option (List Index) := none
  primaryKey : Option (List String) := none
  deriving DecidableEq, Repr

namespace Table

/-- The full name of a table: its database, a dot, and its name. -/
def key (table : Table) : String :=
  table.database ++ "." ++ table.name

/-- The part of the name after its last dot. -/
def bareName (table : Table) : String :=
  lastPart table.name

/-- The part of the name before its last dot, if the source reports one. -/
def schema? (table : Table) : Option String :=
  beforeLastPart? table.name

/-- The first column with a name. -/
def findColumn? (table : Table) (name : String) : Option Column :=
  table.columns.find? (·.name == name)

/-- Whether a column belongs to the primary key. -/
def isPrimaryKey (table : Table) (column : String) : Bool :=
  table.primaryKey.any (·.contains column)

end Table

end QueryAssist
