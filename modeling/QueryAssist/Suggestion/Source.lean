import QueryAssist.Dialect.Identifier
import QueryAssist.Query.Context
import QueryAssist.Schema.Basic
import QueryAssist.Suggestion.Description

/-!
# Sources of suggestions

The suggestions that a dialect makes of keywords, functions, tables and columns, before they are
ranked.
-/

namespace QueryAssist

open Text

namespace Dialect

/-! ## Keywords and functions -/

/-- Keywords and those of the dialect. -/
def suggestKeywords (dialect : Dialect) (base : KeywordSet) : List Suggestion :=
  (base.merge dialect.keywords).map Suggestion.ofKeyword

/-- The tier of a function that not every dialect has. -/
def extendedTier (f : SqlFunction) : Tier :=
  if f.isAggregate then .dialectAggregate else .function

/-- The functions of every dialect and those of this one. -/
def suggestFunctions (dialect : Dialect) : List Suggestion :=
  SqlFunction.core.map (Suggestion.ofFunction · .function) ++
    dialect.extendedFunctions.map fun f => Suggestion.ofFunction f (extendedTier f)

/-! ## Tables -/

/-- The schema of PostgreSQL whose tables need not be qualified. -/
def defaultSchema : String :=
  "public"

/-- Whether a table is also offered under a qualified name: it lives in another database than the
current one, or, in PostgreSQL, in another schema than the default one. -/
def needsQualified (dialect : Dialect) (table : Table) (database : Option String) : Bool :=
  database ≠ some table.database ||
    (dialect.depth == 3 && table.schema?.any (· ≠ defaultSchema))

/-- An entry for a table. -/
def tableEntry (table : Table) (label insertText : String) (tier : Tier) : Suggestion :=
  { Suggestion.plain label .table tier with
    insertText
    detail := some table.detail
    documentation := some table.documentation }

/-- The entry for a table under its bare name. -/
def tableItem (dialect : Dialect) (table : Table) : Suggestion :=
  tableEntry table table.bareName (dialect.formatIdentifier table.bareName) .table

/-- The qualified name of a table: PostgreSQL leaves the database out. -/
def qualifiedName (dialect : Dialect) (table : Table) : String :=
  if dialect.depth = 3 then table.name else table.key

/-- The entry for a table under its qualified name. -/
def qualifiedTableItem (dialect : Dialect) (table : Table) : Suggestion :=
  let name := dialect.qualifiedName table
  tableEntry table name (dialect.formatPath (splitDots name)) .qualifiedTable

/-- The entries for all tables of a schema, in the order of their full names. -/
def suggestTables (dialect : Dialect) (schema : Schema) (database : Option String) :
    List Suggestion :=
  schema.tables.values.flatMap fun table =>
    dialect.tableItem table ::
      if dialect.needsQualified table database then [dialect.qualifiedTableItem table] else []

/-! ## Columns -/

/-- A column in scope, with the name its table goes by. -/
structure ScopedColumn where
  qualifier : String
  isAlias : Bool
  table : Table
  column : Column

/-- The columns of the tables in scope that the schema knows. -/
def scopedColumns (context : QueryContext) (schema : Schema) (database : Option String) :
    List ScopedColumn :=
  context.scopedTables.flatMap fun (qualifier, name) =>
    match schema.resolve? name database with
    | some table => table.columns.map fun column =>
        { qualifier, isAlias := qualifier ≠ name, table, column }
    | none => []

/-- An entry for a column. -/
def columnEntry (dialect : Dialect) (entry : ScopedColumn) (label : String)
    (path : List String) (tier : Tier) : Suggestion :=
  { Suggestion.plain label .column tier with
    insertText := dialect.formatPath path
    detail := some (entry.column.detail entry.table)
    documentation := some (entry.column.documentation entry.table) }

/-- The entry for a column under its own name. -/
def columnItem (dialect : Dialect) (entry : ScopedColumn) : Suggestion :=
  dialect.columnEntry entry entry.column.name [entry.column.name] .column

/-- The entry for a column after a qualifier, whose parts are given. -/
def qualifiedColumnItem (dialect : Dialect) (entry : ScopedColumn) (qualifier : String)
    (parts : List String) (tier : Tier) : Suggestion :=
  dialect.columnEntry entry (qualifier ++ "." ++ entry.column.name)
    (parts ++ [entry.column.name]) tier

/-- The qualified entries for a column.  PostgreSQL shows a table under its full name, and under
the name in the query if that is another one; an alias is one identifier there. -/
def qualifiedColumnItems (dialect : Dialect) (entry : ScopedColumn) : List Suggestion :=
  let qualifier := entry.qualifier
  let asWritten := dialect.qualifiedColumnItem entry qualifier (splitDots qualifier)
  if dialect.depth = 3 then
    if entry.isAlias then
      [dialect.qualifiedColumnItem entry qualifier [qualifier] .aliasedColumn]
    else
      dialect.qualifiedColumnItem entry entry.table.name (splitDots entry.table.name)
          .qualifiedColumn ::
        if qualifier ≠ entry.table.name then [asWritten .qualifiedColumn] else []
  else [asWritten (if entry.isAlias then .aliasedColumn else .qualifiedColumn)]

/-- The entries for columns: each name once by itself, and every column with its qualifier.
`seen` holds the names that have been given. -/
def columnItems (dialect : Dialect) (seen : List String) : List ScopedColumn → List Suggestion
  | [] => []
  | entry :: rest =>
    let name := entry.column.name
    (if name ∈ seen then [] else [dialect.columnItem entry]) ++
      dialect.qualifiedColumnItems entry ++ columnItems dialect (name :: seen) rest

/-- The entries for the columns of all tables in scope. -/
def suggestColumns (dialect : Dialect) (context : QueryContext) (schema : Schema)
    (database : Option String) : List Suggestion :=
  dialect.columnItems [] (scopedColumns context schema database)

end Dialect

end QueryAssist
