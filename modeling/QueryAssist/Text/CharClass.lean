import QueryAssist.Text.LetterTable

/-!
# Character classes

The classes of characters that decide where words begin and end.  Characters below 128 are
decided directly; beyond that a class is a union of the property tables of
`QueryAssist.Text.LetterTable`.
-/

namespace QueryAssist.Text

/-- Whether a character lies in one of the ranges of a table. -/
def inTable (table : List (Nat × Nat)) (c : Char) : Bool :=
  table.any fun range => range.1 ≤ c.toNat && c.toNat ≤ range.2

/-- Whether a character is below 128. -/
def isAscii (c : Char) : Bool :=
  c.toNat < 0x80

/-- Letters and numbers: the property Alphabetic, or a number of any kind. -/
def isAlphanumeric (c : Char) : Bool :=
  if isAscii c then c.isAlphanum
  else inTable Table.alphabetic c || inTable Table.decimalDigit c || inTable Table.otherNumber c

/-- Word characters as patterns understand them: letters, marks, decimal digits, connector
punctuation and join controls. -/
def isWordChar (c : Char) : Bool :=
  if isAscii c then c.isAlphanum || c == '_'
  else inTable Table.alphabetic c || inTable Table.mark c || inTable Table.decimalDigit c ||
    inTable Table.connector c

end QueryAssist.Text
