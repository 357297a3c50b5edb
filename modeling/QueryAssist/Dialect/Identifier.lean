import QueryAssist.Dialect.Basic
import QueryAssist.Text.Quotes

/-!
# Identifiers and paths

How identifiers are written in each dialect, and paths of several identifiers with dots between
them.  `Dialect.formatPath` writes a path; `Dialect.readPath?` reads one by the lexical rule of
the dialect: a quoted identifier has its quotes doubled inside, and PostgreSQL takes plain
lower-case words without quotes.
-/

namespace QueryAssist

open Text

/-! ## Plain identifiers -/

namespace Identifier

/-- Words that PostgreSQL does not take as identifiers without quotes. -/
def reserved : List String :=
  ["all", "analyse", "analyze", "and", "any", "array", "as", "asc", "asymmetric", "both", "case",
    "cast", "check", "collate", "column", "constraint", "create", "current_catalog",
    "current_date", "current_role", "current_time", "current_timestamp", "current_user",
    "default", "deferrable", "desc", "distinct", "do", "else", "end", "except", "false", "fetch",
    "for", "foreign", "from", "grant", "group", "having", "in", "initially", "intersect", "into",
    "lateral", "leading", "limit", "localtime", "localtimestamp", "not", "null", "offset", "on",
    "only", "or", "order", "placing", "primary", "references", "returning", "select",
    "session_user", "some", "symmetric", "table", "then", "to", "trailing", "true", "union",
    "unique", "user", "using", "variadic", "when", "where", "window", "with"]

/-- Characters that may begin an identifier without quotes. -/
def isPlainStart (c : Char) : Bool :=
  c.isLower || c == '_'

/-- Characters that may go on an identifier without quotes. -/
def isPlainChar (c : Char) : Bool :=
  c.isLower || c.isDigit || c == '_' || c == '$'

/-- Whether a name has the form of an identifier without quotes. -/
def isPlainForm : List Char → Bool
  | [] => false
  | c :: cs => isPlainStart c && cs.all isPlainChar

/-- Whether a name may be written without quotes. -/
def isPlain (name : List Char) : Bool :=
  isPlainForm name && !reserved.contains (String.ofList name)

/-! ## Quoted identifiers -/

/-- A name with every quote written twice. -/
def doubled (quote : Char) (name : List Char) : List Char :=
  name.flatMap fun c => if c = quote then [quote, quote] else [c]

/-- A name between quotes. -/
def quoted (quote : Char) (name : List Char) : List Char :=
  quote :: doubled quote name ++ [quote]

end Identifier

namespace Dialect

/-! ## Writing -/

/-- The quote of identifiers. -/
def quote : Dialect → Char
  | mysql | mariadb => backQuote
  | postgresql | sqlite => doubleQuote

/-- Whether a dialect leaves plain names without quotes. -/
def leavesPlain : Dialect → Bool
  | postgresql => true
  | mysql | mariadb | sqlite => false

/-- A name as an identifier. -/
def formatIdentifierL (dialect : Dialect) (name : List Char) : List Char :=
  if dialect.leavesPlain && Identifier.isPlain name then name
  else Identifier.quoted dialect.quote name

/-- A name as an identifier. -/
def formatIdentifier (dialect : Dialect) (name : String) : String :=
  String.ofList (dialect.formatIdentifierL name.toList)

/-- Names as identifiers with dots between them. -/
def formatPath (dialect : Dialect) (names : List String) : String :=
  ".".intercalate (names.map dialect.formatIdentifier)

/-! ## Reading -/

/-- Where the reading of a path stands: before an identifier, inside quotes, after a quote that
closes them unless another one follows, or inside a plain identifier.  The characters read so far
are held last one first. -/
inductive PathState where
  | start
  | inQuotes (read : List Char)
  | afterQuote (read : List Char)
  | inPlain (read : List Char)

/-- The names of the rest of a path; `none` if it is not a path. -/
def readPathFrom (dialect : Dialect) : PathState → List Char → Option (List (List Char))
  | .start, [] => none
  | .start, c :: cs =>
    if c = dialect.quote then readPathFrom dialect (.inQuotes []) cs
    else if dialect.leavesPlain && Identifier.isPlainStart c then
      readPathFrom dialect (.inPlain [c]) cs
    else none
  | .inQuotes _, [] => none
  | .inQuotes read, c :: cs =>
    if c = dialect.quote then readPathFrom dialect (.afterQuote read) cs
    else readPathFrom dialect (.inQuotes (c :: read)) cs
  | .afterQuote read, [] => some [read.reverse]
  | .afterQuote read, c :: cs =>
    if c = dialect.quote then readPathFrom dialect (.inQuotes (c :: read)) cs
    else if c = '.' then (readPathFrom dialect .start cs).map (read.reverse :: ·)
    else none
  | .inPlain read, [] => some [read.reverse]
  | .inPlain read, c :: cs =>
    if Identifier.isPlainChar c then readPathFrom dialect (.inPlain (c :: read)) cs
    else if c = '.' then (readPathFrom dialect .start cs).map (read.reverse :: ·)
    else none

/-- The names of a path as written; `none` if the text is not a path. -/
def readPath? (dialect : Dialect) (path : String) : Option (List String) :=
  (readPathFrom dialect .start path.toList).map (·.map String.ofList)

end Dialect

end QueryAssist
