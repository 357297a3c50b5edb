import QueryAssist.Dialect.Basic

/-!
# Functions

The functions that every dialect has, and those of each family.  `Dialect.findFunction?` looks a
function up by its name.
-/

namespace QueryAssist

open Text

/-- What a function is computed from: one row, a group of rows, or a window around a row. -/
inductive FunctionKind where
  | scalar
  | aggregate
  | window
  deriving DecidableEq, Repr

/-- A function with what is shown about it. -/
structure SqlFunction where
  name : String
  kind : FunctionKind
  signature : Option String
  description : Option String
  deriving DecidableEq, Repr

/-- Whether a function is computed from a group of rows. -/
def SqlFunction.isAggregate (f : SqlFunction) : Bool :=
  f.kind == .aggregate

/-! ## Tables -/

namespace SqlFunction

/-- The functions of every dialect. -/
def core : List SqlFunction :=
  [
    ⟨"COUNT", .aggregate, some "COUNT(expr)",
      some "Count the number of rows"⟩,
    ⟨"SUM", .aggregate, some "SUM(expr)",
      some "Sum of values"⟩,
    ⟨"AVG", .aggregate, some "AVG(expr)",
      some "Average of values"⟩,
    ⟨"MIN", .aggregate, some "MIN(expr)",
      some "Minimum value"⟩,
    ⟨"MAX", .aggregate, some "MAX(expr)",
      some "Maximum value"⟩,
    ⟨"COALESCE", .scalar, some "COALESCE(value, ...)",
      some "Return first non-null value"⟩,
    ⟨"CAST", .scalar, some "CAST(expr AS type)",
      some "Convert a value to another type"⟩]

/-- The further functions of MySQL and MariaDB. -/
def mysqlFamily : List SqlFunction :=
  [
    ⟨"GROUP_CONCAT", .aggregate, some "GROUP_CONCAT(expr [ORDER BY ...] [SEPARATOR str])",
      some "Concatenate values from multiple rows"⟩,
    ⟨"JSON_ARRAYAGG", .aggregate, some "JSON_ARRAYAGG(expr)",
      some "Aggregate values into a JSON array"⟩,
    ⟨"JSON_OBJECTAGG", .aggregate, some "JSON_OBJECTAGG(key, value)",
      some "Aggregate key/value pairs into a JSON object"⟩,
    ⟨"BIT_OR", .aggregate, some "BIT_OR(expr)",
      some "Bitwise OR of all bits"⟩,
    ⟨"IFNULL", .scalar, some "IFNULL(expr, alt)",
      some "Return alternative if null"⟩,
    ⟨"IF", .scalar, some "IF(cond, then, else)",
      some "Conditional value"⟩,
    ⟨"CONCAT", .scalar, some "CONCAT(str, ...)",
      some "Concatenate strings"⟩,
    ⟨"CONCAT_WS", .scalar, some "CONCAT_WS(separator, str, ...)",
      some "Concatenate strings with a separator"⟩,
    ⟨"SUBSTRING_INDEX", .scalar, some "SUBSTRING_INDEX(str, delim, count)",
      some "Substring before count occurrences of a delimiter"⟩,
    ⟨"DATE_FORMAT", .scalar, some "DATE_FORMAT(date, format)",
      some "Format a date value"⟩,
    ⟨"DATE_ADD", .scalar, some "DATE_ADD(date, INTERVAL expr unit)",
      some "Add a time interval to a date"⟩,
    ⟨"DATEDIFF", .scalar, some "DATEDIFF(date1, date2)",
      some "Days between two dates"⟩,
    ⟨"NOW", .scalar, some "NOW()",
      some "Current date and time"⟩,
    ⟨"CURDATE", .scalar, some "CURDATE()",
      some "Current date"⟩,
    ⟨"UNIX_TIMESTAMP", .scalar, some "UNIX_TIMESTAMP([date])",
      some "Seconds since the Unix epoch"⟩,
    ⟨"FROM_UNIXTIME", .scalar, some "FROM_UNIXTIME(seconds [, format])",
      some "Convert a Unix timestamp to a datetime"⟩,
    ⟨"JSON_EXTRACT", .scalar, some "JSON_EXTRACT(doc, path, ...)",
      some "Extract data from a JSON document"⟩,
    ⟨"ROW_NUMBER", .window, some "ROW_NUMBER() OVER (...)",
      some "Row number within partition"⟩,
    ⟨"RANK", .window, some "RANK() OVER (...)",
      some "Rank within partition, with gaps"⟩]

/-- The further functions of PostgreSQL. -/
def postgresqlFamily : List SqlFunction :=
  [
    ⟨"STRING_AGG", .aggregate, some "STRING_AGG(expr, delimiter)",
      some "Concatenate values with a delimiter"⟩,
    ⟨"ARRAY_AGG", .aggregate, some "ARRAY_AGG(expr)",
      some "Collect values into an array"⟩,
    ⟨"JSON_AGG", .aggregate, some "JSON_AGG(expr)",
      some "Aggregate values as a JSON array"⟩,
    ⟨"JSONB_AGG", .aggregate, some "JSONB_AGG(expr)",
      some "Aggregate values as a JSONB array"⟩,
    ⟨"BOOL_AND", .aggregate, some "BOOL_AND(expr)",
      some "True if all inputs are true"⟩,
    ⟨"BOOL_OR", .aggregate, some "BOOL_OR(expr)",
      some "True if any input is true"⟩,
    ⟨"NOW", .scalar, some "NOW()",
      some "Current transaction timestamp"⟩,
    ⟨"DATE_TRUNC", .scalar, some "DATE_TRUNC(field, source)",
      some "Truncate a timestamp to the given precision"⟩,
    ⟨"TO_CHAR", .scalar, some "TO_CHAR(value, format)",
      some "Format a value as text"⟩,
    ⟨"TO_TIMESTAMP", .scalar, some "TO_TIMESTAMP(text, format)",
      some "Parse text into a timestamp"⟩,
    ⟨"NULLIF", .scalar, some "NULLIF(a, b)",
      some "NULL if both arguments are equal"⟩,
    ⟨"GENERATE_SERIES", .scalar, some "GENERATE_SERIES(start, stop [, step])",
      some "Set-returning series of values"⟩,
    ⟨"JSONB_BUILD_OBJECT", .scalar, some "JSONB_BUILD_OBJECT(key, value, ...)",
      some "Build a JSONB object"⟩,
    ⟨"REGEXP_REPLACE", .scalar, some "REGEXP_REPLACE(source, pattern, replacement [, flags])",
      some "Replace substrings matching a POSIX regex"⟩,
    ⟨"ROW_NUMBER", .window, some "ROW_NUMBER() OVER (...)",
      some "Row number within partition"⟩,
    ⟨"DENSE_RANK", .window, some "DENSE_RANK() OVER (...)",
      some "Rank within partition, without gaps"⟩,
    ⟨"LAG", .window, some "LAG(value [, offset [, default]]) OVER (...)",
      some "Value from a preceding row"⟩]

/-- The further functions of SQLite. -/
def sqliteFamily : List SqlFunction :=
  [
    ⟨"GROUP_CONCAT", .aggregate, some "GROUP_CONCAT(expr [, separator])",
      some "Concatenate values from multiple rows"⟩,
    ⟨"TOTAL", .aggregate, some "TOTAL(expr)",
      some "Floating-point sum, 0.0 for no rows"⟩,
    ⟨"IFNULL", .scalar, some "IFNULL(expr, alt)",
      some "Return alternative if null"⟩,
    ⟨"SUBSTR", .scalar, some "SUBSTR(str, start [, length])",
      some "Extract substring"⟩,
    ⟨"INSTR", .scalar, some "INSTR(haystack, needle)",
      some "Position of the first occurrence"⟩,
    ⟨"STRFTIME", .scalar, some "STRFTIME(format, time, ...)",
      some "Format a date/time value"⟩,
    ⟨"DATETIME", .scalar, some "DATETIME(time, modifier, ...)",
      some "Date and time as YYYY-MM-DD HH:MM:SS"⟩,
    ⟨"JULIANDAY", .scalar, some "JULIANDAY(time, modifier, ...)",
      some "Fractional Julian day number"⟩,
    ⟨"PRINTF", .scalar, some "PRINTF(format, ...)",
      some "Format a string"⟩,
    ⟨"TYPEOF", .scalar, some "TYPEOF(expr)",
      some "Storage class of a value"⟩]

end SqlFunction

/-! ## Lookup -/

namespace Dialect

/-- The functions of a dialect that not every dialect has. -/
def extendedFunctions (dialect : Dialect) : List SqlFunction :=
  match dialect.family with
  | .mysql => SqlFunction.mysqlFamily
  | .postgresql => SqlFunction.postgresqlFamily
  | .sqlite => SqlFunction.sqliteFamily

/-- The first function of a dialect with a name, the case of ASCII letters aside. -/
def findFunction? (dialect : Dialect) (name : String) : Option SqlFunction :=
  (SqlFunction.core ++ dialect.extendedFunctions).find? (equalIgnoringAsciiCase ·.name name)

end Dialect

end QueryAssist
