import QueryAssist.Data.Value

/-!
# Writing JSON

`Json.compact` writes a value without blanks, `Json.pretty` on several lines with an indentation
of two blanks per level; empty lists and records stay on one line.
-/

namespace QueryAssist.Json

/-! ## Texts -/

/-- A hexadecimal digit. -/
def hexDigit (n : Nat) : Char :=
  Nat.digitChar n

/-- A character inside a text. -/
def writeChar (c : Char) : List Char :=
  if c = '\x22' then ['\\', '\x22']
  else if c = '\\' then ['\\', '\\']
  else if c = '\x08' then ['\\', 'b']
  else if c = '\x0c' then ['\\', 'f']
  else if c = '\n' then ['\\', 'n']
  else if c = '\r' then ['\\', 'r']
  else if c = '\t' then ['\\', 't']
  else if c.toNat < 0x20 then
    ['\\', 'u', '0', '0', hexDigit (c.toNat / 16), hexDigit (c.toNat % 16)]
  else [c]

/-- A text in quotes. -/
def writeText (s : String) : String :=
  String.ofList ('\x22' :: s.toList.flatMap writeChar ++ ['\x22'])

/-! ## Values -/

/-- A value that is neither a list nor a record. -/
def writeLeaf : Value → String
  | .bool b => if b then "true" else "false"
  | .integer n => toString n
  | .float x => x.text
  | .text s => writeText s
  | .plain s => writeText s
  | _ => "null"

/-- Elements between brackets on one line. -/
def writeFlat (opening closing : String) (elements : List String) : String :=
  opening ++ ",".intercalate elements ++ closing

mutual

/-- A value without blanks. -/
def compact : Value → String
  | .list items => writeFlat "[" "]" (compactItems items)
  | .sequence items => writeFlat "[" "]" (compactItems items)
  | .record members => writeFlat "\x7b" "\x7d" (compactMembers members)
  | leaf => writeLeaf leaf

/-- The items of a list without blanks. -/
def compactItems : List Value → List String
  | [] => []
  | item :: items => compact item :: compactItems items

/-- The members of a record without blanks. -/
def compactMembers : List (String × Value) → List String
  | [] => []
  | (name, value) :: members => (writeText name ++ ":" ++ compact value) :: compactMembers members

end

/-- A new line with the indentation of a level. -/
def newLine (level : Nat) : String :=
  String.ofList ('\n' :: List.replicate (2 * level) ' ')

/-- Elements between brackets, each on a line of its own. -/
def writeBlock (opening closing : String) (level : Nat) (elements : List String) : String :=
  if elements.isEmpty then opening ++ closing
  else
    opening ++ newLine (level + 1) ++ ("," ++ newLine (level + 1)).intercalate elements ++
      newLine level ++ closing

mutual

/-- A value on several lines, inside a line at a level. -/
def prettyAt (level : Nat) : Value → String
  | .list items => writeBlock "[" "]" level (prettyItems level items)
  | .sequence items => writeBlock "[" "]" level (prettyItems level items)
  | .record members => writeBlock "\x7b" "\x7d" level (prettyMembers level members)
  | leaf => writeLeaf leaf

/-- The items of a list on several lines. -/
def prettyItems (level : Nat) : List Value → List String
  | [] => []
  | item :: items => prettyAt (level + 1) item :: prettyItems level items

/-- The members of a record on several lines. -/
def prettyMembers (level : Nat) : List (String × Value) → List String
  | [] => []
  | (name, value) :: members =>
    (writeText name ++ ": " ++ prettyAt (level + 1) value) :: prettyMembers level members

end

/-- A value on several lines. -/
def pretty (value : Value) : String :=
  prettyAt 0 value

end QueryAssist.Json
