import QueryAssist.Dialect.Basic
import QueryAssist.Text.Distinct

/-!
# Keywords

Keywords with their descriptions, and the sets of them that are offered: those of every dialect
by their place in a statement, and those of each dialect.  `KeywordSet.merge` joins two sets; a
label that is there already is not added again.
-/

namespace QueryAssist

open Text

/-- A keyword; its label is in upper case. -/
structure Keyword where
  label : String
  description : Option String
  deriving DecidableEq, Repr

/-- The keyword with a given spelling. -/
def Keyword.spelled (spelling : String) (description : Option String) : Keyword :=
  { label := uppercase spelling, description }

/-- Keywords in the order in which they are offered. -/
abbrev KeywordSet := List Keyword

namespace KeywordSet

/-! ## Merging -/

/-- The labels of a set. -/
def labels (set : KeywordSet) : List String :=
  set.map (·.label)

/-- The first set and after it the keywords of the second whose label is new. -/
def merge (first second : KeywordSet) : KeywordSet :=
  first ++ distinctFrom Keyword.label (labels first) second

/-! ## Keywords of every dialect -/

/-- The keywords of a table of spellings and descriptions. -/
def ofTable (table : List (String × String)) : KeywordSet :=
  table.map fun (spelling, description) => Keyword.spelled spelling (some description)

/-- Keywords that begin a statement. -/
def statements : KeywordSet :=
  ofTable [
    ("SELECT", "Retrieve data from tables"),
    ("INSERT", "Insert new rows into a table"),
    ("UPDATE", "Modify existing rows in a table"),
    ("DELETE", "Delete rows from a table"),
    ("CREATE", "Create database objects"),
    ("ALTER", "Modify database objects"),
    ("DROP", "Remove database objects"),
    ("WITH", "Common Table Expression (CTE)")]

/-- Keywords that may follow a complete list of columns. -/
def clauses : KeywordSet :=
  ofTable [
    ("FROM", "Specify tables to query"),
    ("WHERE", "Filter rows"),
    ("GROUP BY", "Group rows by values"),
    ("HAVING", "Filter groups"),
    ("ORDER BY", "Sort result rows"),
    ("JOIN", "Join with another table"),
    ("INNER JOIN", "Inner join with another table"),
    ("LEFT JOIN", "Left outer join"),
    ("RIGHT JOIN", "Right outer join"),
    ("ON", "Join condition"),
    ("UNION", "Combine result sets"),
    ("DISTINCT", "Remove duplicate rows"),
    ("AS", "Alias for columns or tables")]

/-- Keywords of expressions and conditions. -/
def expressions : KeywordSet :=
  ofTable [
    ("AND", "Logical AND"),
    ("OR", "Logical OR"),
    ("NOT", "Logical NOT"),
    ("IN", "Value in list"),
    ("EXISTS", "Subquery exists"),
    ("BETWEEN", "Value between range"),
    ("LIKE", "Pattern matching"),
    ("IS NULL", "Check if value is NULL"),
    ("IS NOT NULL", "Check if value is not NULL"),
    ("CASE", "Conditional expression"),
    ("WHEN", "CASE WHEN condition"),
    ("THEN", "CASE THEN result"),
    ("ELSE", "CASE ELSE default"),
    ("END", "END CASE expression"),
    ("NULL", "NULL value")]

/-- All keywords of every dialect. -/
def standard : KeywordSet :=
  (statements.merge clauses).merge expressions

/-! ## Keywords of single dialects -/

/-- The keywords of MySQL and MariaDB. -/
def mysqlFamily : KeywordSet :=
  ofTable [
    ("LIMIT", "Limit the number of rows"),
    ("STRAIGHT_JOIN", "Join in the listed table order"),
    ("ON DUPLICATE KEY UPDATE", "Update the existing row on a unique key conflict"),
    ("REPLACE", "Insert or replace rows"),
    ("INSERT IGNORE", "Insert, skipping conflicting rows"),
    ("REGEXP", "Regular expression match"),
    ("SHOW", "Show server metadata"),
    ("DESCRIBE", "Describe a table"),
    ("USE", "Switch the current database"),
    ("AUTO_INCREMENT", "Auto-increment column attribute")]

/-- The keywords of MariaDB alone. -/
def mariadb : KeywordSet :=
  ofTable [
    ("RETURNING", "Return rows affected by INSERT/DELETE")]

/-- The keywords of PostgreSQL. -/
def postgresql : KeywordSet :=
  ofTable [
    ("LIMIT", "Limit the number of rows"),
    ("OFFSET", "Skip rows"),
    ("RETURNING", "Return rows affected by DML"),
    ("ILIKE", "Case-insensitive pattern match"),
    ("DISTINCT ON", "Keep the first row of each group"),
    ("ON CONFLICT", "Handle unique constraint conflicts"),
    ("LATERAL", "Subquery referencing preceding FROM items"),
    ("SIMILAR TO", "SQL regular expression match"),
    ("FILTER", "Aggregate filter clause"),
    ("FETCH FIRST", "Standard row limiting")]

/-- The keywords of SQLite. -/
def sqlite : KeywordSet :=
  ofTable [
    ("LIMIT", "Limit the number of rows"),
    ("PRAGMA", "Query or change library settings"),
    ("GLOB", "Case-sensitive Unix glob match"),
    ("WITHOUT ROWID", "Table without implicit rowid"),
    ("ATTACH DATABASE", "Attach another database file"),
    ("VACUUM", "Rebuild the database file"),
    ("INSERT OR REPLACE", "Insert, replacing conflicting rows"),
    ("AUTOINCREMENT", "Monotonic rowid allocation")]

/-- The clause keyword of the dialects that have only one of their own. -/
def limitClause : KeywordSet :=
  ofTable [
    ("LIMIT", "Limit the number of rows")]

/-- The clause keywords of PostgreSQL. -/
def postgresqlClauses : KeywordSet :=
  ofTable [
    ("LIMIT", "Limit the number of rows"),
    ("OFFSET", "Skip rows"),
    ("FETCH FIRST", "Standard row limiting")]

end KeywordSet

namespace Dialect

/-- The keywords that a dialect has beside the standard ones. -/
def keywords : Dialect → KeywordSet
  | mysql => KeywordSet.mysqlFamily
  | mariadb => KeywordSet.mysqlFamily ++ KeywordSet.mariadb
  | postgresql => KeywordSet.postgresql
  | sqlite => KeywordSet.sqlite

/-- The keywords of a dialect that may follow a complete list of columns. -/
def clauseKeywords : Dialect → KeywordSet
  | mysql | mariadb | sqlite => KeywordSet.limitClause
  | postgresql => KeywordSet.postgresqlClauses

end Dialect

end QueryAssist
