import QueryAssist.Schema.Table
import QueryAssist.Text.Dictionary
import QueryAssist.Text.LetterCase
import QueryAssist.Text.Quotes

/-!
# Schemas

A schema is what is known about the databases of a connection.  `Schema.ofParts` builds one from
lists, and `Schema.resolve?` finds the table that a name in a query means.
-/

namespace QueryAssist

open Text

/-- The databases of a connection, and their tables under their full names. -/
structure Schema where
  databases : NameSet := Dictionary.empty
  tables : Dictionary Table := Dictionary.empty
  /-- names of functions that the source provides -/
  functions : List String := []
  /-- keywords that the source provides -/
  keywords : List String := []
  deriving DecidableEq, Repr

namespace Schema

/-- The schema of a connection about which nothing is known. -/
def empty : Schema := {}

/-- The schema with given databases and tables; of tables with one full name the last counts. -/
def ofParts (databases : List String) (tables : List Table) : Schema where
  databases := NameSet.ofNames databases
  tables := Dictionary.ofList (tables.map fun table => (table.key, table))

/-- Whether there are neither databases nor tables. -/
def isEmpty (schema : Schema) : Bool :=
  schema.databases.isEmpty && schema.tables.isEmpty

/-! ## Resolving names -/

/-- Whether a full name ends in a dot and a given name, the case of ASCII letters aside. -/
def endsInName (key name : String) : Bool :=
  (('.' :: name.toList).map Char.toLower).isSuffixOf (key.toList.map Char.toLower)

/-- The tables whose full name ends in a name, in the order of their full names. -/
def candidates (schema : Schema) (name : String) : List Table :=
  (schema.tables.entries.filter fun entry => endsInName entry.1 name).map (·.2)

/-- The table of a full name that ends in a name; one of the current database is preferred. -/
def resolveSuffix? (schema : Schema) (name : String) (database : Option String) : Option Table :=
  let tables := schema.candidates name
  (database.bind fun db => tables.find? (·.database == db)).or tables.head?

/-- The table that a name in a query means.  Without its quotes the name is tried as a full name,
then as a name in the current database, then as the end of a full name. -/
def resolve? (schema : Schema) (written : String) (database : Option String) : Option Table :=
  let name := unquote written
  if name = "" then none
  else
    (schema.tables.find? name).or <|
      (database.bind fun db => schema.tables.find? (db ++ "." ++ name)).or <|
        schema.resolveSuffix? name database

end Schema

end QueryAssist
