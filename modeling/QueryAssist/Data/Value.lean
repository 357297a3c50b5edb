import QueryAssist.Data.Binary64

/-!
# Data values

Trees of data, as JSON and YAML documents write them.  Three kinds of values need care.  A `plain`
scalar is written without quotes, and what it means is up to the reader that asks for a type.  A
`sequence` holds items like a `list`, but cannot stand for a record.  An `unreadable` value is well
formed but has no meaning (a text with half a surrogate pair, a number out of range): it may stand
where nobody reads it.
-/

namespace QueryAssist

/-- A tree of data. -/
inductive Value where
  | null
  | bool (b : Bool)
  | integer (n : Int)
  | float (x : Binary64)
  | text (s : String)
  | plain (s : String)
  | unreadable
  | list (items : List Value)
  | sequence (items : List Value)
  | record (members : List (String × Value))
  deriving Repr

namespace Value

instance : Inhabited Value where
  default := null

/-- The list of some texts. -/
def texts (items : List String) : Value :=
  list (items.map text)

/-- A natural number as data. -/
def natural (n : Nat) : Value :=
  integer n

/-- A member that is left out when there is nothing to say. -/
def member? {α : Type} (name : String) (encode : α → Value) (value : Option α) :
    List (String × Value) :=
  match value with
  | some v => [(name, encode v)]
  | none => []

/-- A member, or `null` when there is nothing to say. -/
def orNull {α : Type} (encode : α → Value) (value : Option α) : Value :=
  (value.map encode).getD null

/-- The value of the first member with a name. -/
def get? (value : Value) (name : String) : Option Value :=
  match value with
  | record members => members.lookup name
  | _ => none

end Value

end QueryAssist
