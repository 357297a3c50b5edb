import QueryAssist.Data.Word
import QueryAssist.Text.Digits

/-!
# Command line arguments

Every option takes one value, which stands in the next argument or after an equals sign.  An option
is given at most once, and there is nothing but options.
-/

namespace QueryAssist

namespace CommandLine

/-- The options that take a value. -/
inductive Flag where
  | dialect
  | schema
  | database
  | line
  | column
  | sql
  | limit
  deriving DecidableEq, Repr

namespace Flag

/-- All options, in the order in which they are explained. -/
def all : List Flag :=
  [dialect, schema, database, line, column, sql, limit]

/-- The name of an option. -/
def name : Flag → String
  | dialect => "dialect"
  | schema => "schema"
  | database => "database"
  | line => "line"
  | column => "column"
  | sql => "sql"
  | limit => "limit"

/-- The explanation of an option. -/
def explanation : Flag → String
  | dialect => "Database type (mysql, mariadb, postgresql, sqlite) [default: mysql]"
  | schema => "Schema document (JSON or YAML)"
  | database => "Current database of the session"
  | line => "Cursor line (1-based); defaults to the end of the text"
  | column => "Cursor column (1-based); defaults to the end of the line"
  | sql => "SQL text; read from stdin when absent"
  | limit => "Maximum number of suggestions"

/-- The option of a name. -/
def ofName? (name : List Char) : Option Flag :=
  all.find? fun flag => flag.name.toList == name

end Flag

/-- What was asked for. -/
structure Arguments where
  dialect : String := "mysql"
  schema : Option String := none
  database : Option String := none
  line : Option UInt32 := none
  column : Option UInt32 := none
  sql : Option String := none
  limit : Option Nat := none
  deriving DecidableEq, Repr

/-- A request to the program. -/
inductive Request where
  | complete (arguments : Arguments)
  | help
  | version
  /-- the arguments make no sense -/
  | badUsage
  deriving DecidableEq, Repr

/-! ## Values -/

/-- The number that a value spells, with an optional plus sign, or a minus sign before zero. -/
def number? (cs : List Char) : Option Nat :=
  match cs with
  | '+' :: digits => Text.digits? 10 digits
  | '-' :: digits => if Text.digits? 10 digits = some 0 then some 0 else none
  | digits => Text.digits? 10 digits

/-- The line or column that a value spells. -/
def index? (cs : List Char) : Option UInt32 :=
  match number? cs with
  | some n => if n < Word.bound32 then some (UInt32.ofNat n) else none
  | none => none

/-- The number of items that a value spells; it has no minus sign. -/
def count? (cs : List Char) : Option Nat :=
  if cs.head? = some '-' then none
  else
    match number? cs with
    | some n => if n < Word.bound64 then some n else none
    | none => none

namespace Arguments

/-- Gives an option its value. -/
def set (arguments : Arguments) (flag : Flag) (value : List Char) : Option Arguments :=
  let text := String.ofList value
  match flag with
  | .dialect => some { arguments with dialect := text }
  | .schema => if value.isEmpty then none else some { arguments with schema := some text }
  | .database => some { arguments with database := some text }
  | .line => (index? value).map fun n => { arguments with line := some n }
  | .column => (index? value).map fun n => { arguments with column := some n }
  | .sql => some { arguments with sql := some text }
  | .limit => (count? value).map fun n => { arguments with limit := some n }

end Arguments

/-! ## Arguments -/

/-- Whether an argument can be the value of an option before it. -/
def isValue (argument : List Char) : Bool :=
  argument.head? != some '-' || argument == ['-']

/-- The name of a long option, and its value if it has one after an equals sign. -/
def cutAtEquals (argument : List Char) : List Char × Option (List Char) :=
  match argument.dropWhile (· != '=') with
  | [] => (argument, none)
  | _ :: value => (argument.takeWhile (· != '='), some value)

namespace Request

/-- Reads arguments one after the other; `given` holds the options met so far. -/
def read (arguments : Arguments) (given : List Flag) : List (List Char) → Request
  | [] => .complete arguments
  | ('-' :: '-' :: option) :: rest =>
    if option.isEmpty then if rest.isEmpty then .complete arguments else .badUsage
    else
      let (name, value?) := cutAtEquals option
      match Flag.ofName? name with
      | none =>
        if value?.isSome then .badUsage
        else if name = "help".toList then .help
        else if name = "version".toList then .version
        else .badUsage
      | some flag =>
        if flag ∈ given then .badUsage
        else
          match value?, rest with
          | some value, rest =>
            match arguments.set flag value with
            | some arguments => read arguments (flag :: given) rest
            | none => .badUsage
          | none, value :: rest =>
            if isValue value then
              match arguments.set flag value with
              | some arguments => read arguments (flag :: given) rest
              | none => .badUsage
            else .badUsage
          | none, [] => .badUsage
  | ('-' :: 'h' :: _) :: _ => .help
  | ('-' :: 'V' :: _) :: _ => .version
  | _ :: _ => .badUsage

/-- The request that arguments make. -/
def ofArguments (arguments : List String) : Request :=
  read {} [] (arguments.map String.toList)

end Request

end CommandLine

end QueryAssist
