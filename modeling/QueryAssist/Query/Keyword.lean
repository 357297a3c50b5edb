import QueryAssist.Text.Blank
import QueryAssist.Text.CharClass
import QueryAssist.Text.Pattern

/-!
# Keywords in patterns

How keywords are recognised in the text of a query: letters match in either case, and a keyword
stands between word boundaries.
-/

namespace QueryAssist.Query

open Text

/-- The letter that stands for a character when case does not matter.  Besides the capitals, the
long s and the Kelvin sign stand for ASCII letters. -/
def foldLetter (c : Char) : Char :=
  if c = 'ſ' then 's' else if c = '\u212A' then 'k' else c.toLower

/-- The class of the characters that are one letter but for case. -/
def letter (l : Char) : Char → Bool :=
  fun c => foldLetter c == foldLetter l

/-- The letters of a word, in either case. -/
def spelled (word : String) : Pattern :=
  .all (word.toList.map fun l => .one (letter l))

/-- One or more blanks. -/
def blanks : Pattern :=
  .many isBlank

/-- The place between a word character and something else. -/
def wordEdge : Pattern :=
  .boundary isWordChar

/-- A word of its own. -/
def loneWord (word : String) : Pattern :=
  .all [wordEdge, spelled word, wordEdge]

end QueryAssist.Query
