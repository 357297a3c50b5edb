import QueryAssist.Text.CharClass
import QueryAssist.Text.ConcealedTable

/-!
# Quoted text in messages

How a text is shown inside an error message: between double quotes, with the characters that
would not be seen, or would be taken for the quotes, written as escapes.
-/

namespace QueryAssist.Text

/-- The lower-case hexadecimal digits of a number. -/
def hexDigits (n : Nat) : List Char :=
  Nat.toDigits 16 n

/-- Whether a character has no visible form of its own. -/
def isConcealed (c : Char) : Bool :=
  if isAscii c then c.toNat < 0x20 || c.toNat == 0x7F else inTable Table.concealed c

/-- A character as it is shown between quotes. -/
def displayChar (c : Char) : List Char :=
  if c = '\x00' then ['\\', '0']
  else if c = '\t' then ['\\', 't']
  else if c = '\r' then ['\\', 'r']
  else if c = '\n' then ['\\', 'n']
  else if c = '\x22' then ['\\', '\x22']
  else if c = '\\' then ['\\', '\\']
  else if isConcealed c then ['\\', 'u', '\x7b'] ++ hexDigits c.toNat ++ ['\x7d']
  else [c]

/-- A text as it is shown in a message. -/
def display (s : String) : String :=
  String.ofList ('\x22' :: s.toList.flatMap displayChar ++ ['\x22'])

end QueryAssist.Text
