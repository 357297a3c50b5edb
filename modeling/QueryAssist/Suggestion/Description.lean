import QueryAssist.Dialect.Function
import QueryAssist.Dialect.Keyword
import QueryAssist.Schema.Table
import QueryAssist.Suggestion.Basic

/-!
# Descriptions

The details and the documentation that suggestions show, and the suggestions that need nothing
but a description: keywords, functions and the wildcard.
-/

namespace QueryAssist

/-- Paragraphs with an empty line between every two. -/
def paragraphs (parts : List String) : String :=
  "\n\n".intercalate parts

/-! ## Columns and tables -/

/-- The detail of a column: its type, whether it must have a value, whether it belongs to the
primary key. -/
def Column.detail (column : Column) (table : Table) : String :=
  " ".intercalate ([column.dataType] ++ (if column.nullable then [] else ["NOT NULL"]) ++
    if table.isPrimaryKey column.name then ["PRIMARY KEY"] else [])

/-- The documentation of a column: its table, its default value and its comment. -/
def Column.documentation (column : Column) (table : Table) : String :=
  paragraphs (["Column of " ++ table.key] ++
    (column.defaultValue.map fun value => "Default: " ++ value).toList ++ column.comment.toList)

/-- The detail of a table: its full name. -/
def Table.detail (table : Table) : String :=
  table.key ++ " [TABLE]"

/-- The paragraphs about the columns of a table; the names are given if there are at most five. -/
def Table.columnParagraphs (table : Table) : List String :=
  let count := table.columns.length
  if count = 0 then []
  else
    (toString count ++ " columns") ::
      if count ≤ 5 then ["Columns: " ++ ", ".intercalate (table.columns.map (·.name))] else []

/-- The documentation of a table: columns, primary key and the number of indexes. -/
def Table.documentation (table : Table) : String :=
  let keys := table.primaryKey.map fun columns => "Primary key: " ++ ", ".intercalate columns
  let indexes := (table.indexes.filter (!·.isEmpty)).map fun indexes =>
    toString indexes.length ++ " indexes"
  let parts := table.columnParagraphs ++ keys.toList ++ indexes.toList
  if parts.isEmpty then "Database table" else paragraphs parts

/-! ## Keywords, functions and the wildcard -/

/-- The suggestion of a keyword. -/
def Suggestion.ofKeyword (keyword : Keyword) : Suggestion :=
  { Suggestion.plain keyword.label .keyword .keyword with
    detail := some "keyword"
    documentation := keyword.description }

/-- The suggestion of a function in a tier. -/
def Suggestion.ofFunction (f : SqlFunction) (tier : Tier) : Suggestion :=
  { Suggestion.plain f.name .function tier with
    detail := some (f.signature.getD (f.name ++ "(...)"))
    documentation := f.description }

/-- The suggestion to select all columns. -/
def Suggestion.wildcard : Suggestion :=
  { Suggestion.plain "*" .operator .column with
    detail := some "All columns"
    documentation := some "Selects all columns from all tables in the FROM clause" }

end QueryAssist
