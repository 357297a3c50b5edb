import QueryAssist.Data.Value
import QueryAssist.Text.Digits
import QueryAssist.Text.Display

/-!
# Reading data values

Readers turn a `Value` into a value of a domain type or say why they cannot.  Scalars have one
reader each.  Records are read through a `RecordShape`, which lists their fields: a record may be
given with named members or as a list in the order of the fields.
-/

namespace QueryAssist

open Text

/-! ## Errors -/

/-- Why a value could not be read. -/
inductive DecodeError where
  /-- a value of another kind than expected -/
  | invalidType (found : Value) (expected : String)
  /-- a value of the right kind that is out of range -/
  | invalidValue (found : Value) (expected : String)
  /-- a list with too few or too many elements -/
  | invalidLength (length : Nat) (expected : String)
  | missingField (name : String)
  | duplicateField (name : String)
  | unknownVariant (name : String)
  deriving Repr

/-- A value that was read, or the reason why not. -/
abbrev Decoded (α : Type) := Except DecodeError α

/-- A value as it is named in a message. -/
def Value.described : Value → String
  | null => "null"
  | bool b => "boolean \x60" ++ (if b then "true" else "false") ++ "\x60"
  | integer n => "integer \x60" ++ toString n ++ "\x60"
  | float x => "floating point \x60" ++ x.text ++ "\x60"
  | text s => "string " ++ display s
  | plain s => "string " ++ display s
  | unreadable => "unreadable value"
  | list _ => "sequence"
  | sequence _ => "sequence"
  | record _ => "map"

/-- The wording of an error. -/
def DecodeError.message : DecodeError → String
  | invalidType found expected => "invalid type: " ++ found.described ++ ", expected " ++ expected
  | invalidValue found expected =>
    "invalid value: " ++ found.described ++ ", expected " ++ expected
  | invalidLength length expected =>
    "invalid length " ++ toString length ++ ", expected " ++ expected
  | missingField name => "missing field \x60" ++ name ++ "\x60"
  | duplicateField name => "duplicate field \x60" ++ name ++ "\x60"
  | unknownVariant name => "unknown variant \x60" ++ name ++ "\x60"

namespace Value

/-! ## Plain scalars -/

/-- Whether a plain scalar spells nothing. -/
def spellsNull (s : String) : Bool :=
  s == "" || s == "~" || s == "null" || s == "Null" || s == "NULL"

/-- The truth value that a plain scalar spells. -/
def spelledBool? (s : String) : Option Bool :=
  if s = "true" || s = "True" || s = "TRUE" then some true
  else if s = "false" || s = "False" || s = "FALSE" then some false
  else none

/-- The number that an unsigned plain scalar spells: decimal digits without superfluous leading
zeros, or digits after `0x`, `0o` or `0b`. -/
def unsigned? (cs : List Char) : Option Nat :=
  match cs with
  | '0' :: 'x' :: rest => digits? 16 rest
  | '0' :: 'o' :: rest => digits? 8 rest
  | '0' :: 'b' :: rest => digits? 2 rest
  | '0' :: _ :: _ => none
  | _ => digits? 10 cs

/-- The integer that a plain scalar spells, with an optional sign. -/
def spelledInteger? (s : String) : Option Int :=
  match s.toList with
  | '-' :: rest => (unsigned? rest).map fun n => -(n : Int)
  | '+' :: rest => (unsigned? rest).map fun n => (n : Int)
  | cs => (unsigned? cs).map fun n => (n : Int)

/-! ## Scalars -/

/-- Reads a text. -/
def asText : Value → Decoded String
  | text s => .ok s
  | plain s => .ok s
  | other => .error (.invalidType other "a string")

/-- Reads a truth value. -/
def asBool : Value → Decoded Bool
  | bool b => .ok b
  | plain s =>
    match spelledBool? s with
    | some b => .ok b
    | none => .error (.invalidType (plain s) "a boolean")
  | other => .error (.invalidType other "a boolean")

/-- Reads a natural number below `bound`, in a field whose type goes by the name `expected`. -/
def asBelow (bound : Nat) (expected : String) : Value → Decoded Nat
  | integer n =>
    if 0 ≤ n && n < bound then .ok n.toNat else .error (.invalidValue (integer n) expected)
  | plain s =>
    match spelledInteger? s with
    | some n =>
      if 0 ≤ n && n < bound then .ok n.toNat else .error (.invalidValue (plain s) expected)
    | none => .error (.invalidType (plain s) expected)
  | other => .error (.invalidType other expected)

/-- Reads a text of exactly one character. -/
def asChar : Value → Decoded Char
  | text s =>
    match s.toList with
    | [c] => .ok c
    | _ => .error (.invalidValue (text s) "a character")
  | plain s =>
    match s.toList with
    | [c] => .ok c
    | _ => .error (.invalidValue (plain s) "a character")
  | other => .error (.invalidType other "a character")

/-! ## Options, lists and records of one kind -/

/-- Reads a value that may be null. -/
def asOption {α : Type} (read : Value → Decoded α) : Value → Decoded (Option α)
  | null => .ok none
  | plain s => if spellsNull s then .ok none else some <$> read (plain s)
  | other => some <$> read other

/-- Reads a list.  A plain scalar that spells the empty text is the empty list. -/
def asList {α : Type} (read : Value → Decoded α) : Value → Decoded (List α)
  | list items => items.mapM read
  | sequence items => items.mapM read
  | plain s => if s = "" then .ok [] else .error (.invalidType (plain s) "a sequence")
  | other => .error (.invalidType other "a sequence")

/-- Reads a record with arbitrary member names. -/
def asMembers {α : Type} (read : Value → Decoded α) : Value → Decoded (List (String × α))
  | record members => members.mapM fun (name, value) => (name, ·) <$> read value
  | other => .error (.invalidType other "a map")

/-- Reads one of several names: the name itself, or a record whose only member is the name with
the value null. -/
def asVariant {α : Type} (variants : List (String × α)) (value : Value) : Decoded α :=
  let name? : Option String :=
    match value with
    | text s => some s
    | plain s => some s
    | record [(name, null)] => some name
    | _ => none
  match name? with
  | none => .error (.invalidType value "a variant")
  | some name =>
    match variants.lookup name with
    | some variant => .ok variant
    | none => .error (.unknownVariant name)

end Value

/-! ## Records -/

/-- What may be left out of a record. -/
inductive Presence where
  /-- always given -/
  | required
  /-- may be left out among named members, but not in a list -/
  | optional
  /-- may be left out everywhere -/
  | defaulted
  deriving DecidableEq, Repr

/-- The fields of a record, in the order in which a list gives them. -/
structure RecordShape where
  name : String
  fields : List (String × Presence)

namespace RecordShape

/-- The named members that belong to the fields, in the order in which they are given; `seen`
holds the names already met, and a second member of one name is an error. -/
def namedFrom (shape : RecordShape) (seen : List String) :
    List (String × Value) → List (Decoded (String × Value))
  | [] => []
  | (name, value) :: members =>
    if (shape.fields.lookup name).isNone then namedFrom shape seen members
    else if name ∈ seen then .error (.duplicateField name) :: namedFrom shape seen members
    else .ok (name, value) :: namedFrom shape (name :: seen) members

/-- The members of a list, each with the name of its field.  After the last item the fields that
are left must all be `defaulted`; after the last field no item may be left. -/
def positionalFrom (shape : RecordShape) (total : Nat) :
    List (String × Presence) → List Value → List (Decoded (String × Value))
  | [], [] => []
  | [], _ :: _ => [.error (.invalidLength total "fewer elements in array")]
  | fields, [] =>
    if fields.all (·.2 == .defaulted) then []
    else
      [.error (.invalidLength total
        ("struct " ++ shape.name ++ " with " ++ toString shape.fields.length ++ " elements"))]
  | (name, _) :: fields, value :: items =>
    .ok (name, value) :: positionalFrom shape total fields items

/-- The members of a record in the order in which they are read, with the error that ends the
reading in its place.  Nothing at all stands for a record without members. -/
def readings (shape : RecordShape) : Value → List (Decoded (String × Value))
  | .record members => shape.namedFrom [] members
  | .list items => shape.positionalFrom items.length shape.fields items
  | .plain s =>
    if s = "" then [] else [.error (.invalidType (.plain s) ("struct " ++ shape.name))]
  | other => [.error (.invalidType other ("struct " ++ shape.name))]

/-- The members of a record by name. -/
def members (shape : RecordShape) (value : Value) : Decoded (List (String × Value)) :=
  (shape.readings value).mapM id

end RecordShape

/-! ## Fields -/

/-- Reads a member that must be there. -/
def Decoded.required {α : Type} (members : List (String × Value)) (name : String)
    (read : Value → Decoded α) : Decoded α :=
  match members.lookup name with
  | some value => read value
  | none => .error (.missingField name)

/-- Reads a member that may be left out, with the value it then has. -/
def Decoded.orDefault {α : Type} (members : List (String × Value)) (name : String)
    (read : Value → Decoded α) (default : α) : Decoded α :=
  match members.lookup name with
  | some value => read value
  | none => .ok default

/-- Reads a member that may be left out or null. -/
def Decoded.optional {α : Type} (members : List (String × Value)) (name : String)
    (read : Value → Decoded α) : Decoded (Option α) :=
  Decoded.orDefault members name (Value.asOption read) none

end QueryAssist
