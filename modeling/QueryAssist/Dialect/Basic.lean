import QueryAssist.Text.Blank
import QueryAssist.Text.LetterCase

/-!
# Dialects

The dialects of SQL that are served, the families they form, and the names they go by.
`Dialect.ofName?` reads a name, `Dialect.name` writes the canonical one.
-/

namespace QueryAssist

open Text

/-- A dialect of SQL. -/
inductive Dialect where
  | mysql
  | mariadb
  | postgresql
  | sqlite
  deriving DecidableEq, Repr

/-- Dialects that share their functions and their way of naming tables. -/
inductive DialectFamily where
  | mysql
  | postgresql
  | sqlite
  deriving DecidableEq, Repr

namespace Dialect

/-- All dialects, in the order in which they are listed. -/
def all : List Dialect :=
  [mysql, mariadb, postgresql, sqlite]

/-- The family of a dialect. -/
def family : Dialect → DialectFamily
  | mysql | mariadb => .mysql
  | postgresql => .postgresql
  | sqlite => .sqlite

/-- The canonical name of a dialect. -/
def name : Dialect → String
  | mysql => "mysql"
  | mariadb => "mariadb"
  | postgresql => "postgresql"
  | sqlite => "sqlite"

/-- The number of parts of a full table name: PostgreSQL has schemas between databases and
tables. -/
def depth (dialect : Dialect) : Nat :=
  match dialect.family with
  | .postgresql => 3
  | .mysql | .sqlite => 2

/-- The names by which a dialect may be asked for. -/
def names : List (String × Dialect) :=
  [("mysql", mysql), ("mariadb", mariadb), ("postgresql", postgresql), ("postgres", postgresql),
    ("pg", postgresql), ("sqlite", sqlite), ("sqlite3", sqlite)]

/-- The dialect that goes by a name; surrounding blanks and the case of ASCII letters do not
matter. -/
def ofName? (name : String) : Option Dialect :=
  names.lookup (asciiLower (trim name))

end Dialect

/-- The name of a family. -/
def DialectFamily.name : DialectFamily → String
  | mysql => "MySQL"
  | postgresql => "PostgreSQL"
  | sqlite => "SQLite"

end QueryAssist
