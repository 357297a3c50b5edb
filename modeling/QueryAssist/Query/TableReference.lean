import QueryAssist.Query.Keyword
import QueryAssist.Text.LetterCase
import QueryAssist.Text.Quotes

/-!
# Table references

A table reference is a table path after `FROM` or `JOIN`, with an optional alias.
`TableReference.findAll` lists the references of a text from left to right.
-/

namespace QueryAssist

open Text Query

/-- A table named in a query, and the name it goes by there: its alias, or else its path. -/
structure TableReference where
  path : String
  aliasName : String
  deriving DecidableEq, Repr

namespace TableReference

/-! ## The pattern -/

/-- Whether a character may open a quoted name. -/
def isOpeningQuote (c : Char) : Bool :=
  c == backQuote || c == doubleQuote || c == '['

/-- Whether a character may close a quoted name. -/
def isClosingQuote (c : Char) : Bool :=
  c == backQuote || c == doubleQuote || c == ']'

/-- Word characters and the dollar sign: the characters of a name in a path. -/
def isPathChar (c : Char) : Bool :=
  isWordChar c || c == '$'

/-- A name over a class of characters, with an optional quote at each end. -/
def name (cls : Char → Bool) : Pattern :=
  .all [.maybe (.one isOpeningQuote), .many cls, .maybe (.one isClosingQuote)]

/-- A name of a path and the dot after it. -/
def qualifier : Pattern :=
  .seq (name isPathChar) (.one (· == '.'))

/-- A table path of one to three names. -/
def pathPattern : Pattern :=
  .seq (.maybe (.seq qualifier (.maybe qualifier))) (name isPathChar)

/-- A table reference: group 1 is the path, group 2 the name after it. -/
def pattern : Pattern :=
  .all [
    wordEdge,
    .anyOf [spelled "FROM", spelled "JOIN"],
    blanks,
    .group 1 pathPattern,
    .maybe (.all [
      blanks,
      .maybe (.all [spelled "AS", blanks]),
      .group 2 (name isWordChar)])]

/-! ## Aliases -/

/-- The keywords that may follow a table and so are no alias of it. -/
def followingKeywords : List String :=
  ["AS", "ON", "USING", "FROM", "WHERE", "JOIN", "LEFT", "RIGHT", "FULL", "INNER", "OUTER",
    "CROSS", "NATURAL", "STRAIGHT_JOIN", "GROUP", "ORDER", "HAVING", "LIMIT", "OFFSET", "FETCH",
    "UNION", "INTERSECT", "EXCEPT", "WINDOW", "SET", "VALUES", "RETURNING", "INTO", "SELECT",
    "WITH", "LATERAL", "FOR", "LOCK"]

/-- Whether a name can be an alias: it is not empty and no keyword. -/
def isAlias (name : String) : Bool :=
  name ≠ "" && !followingKeywords.any (equalIgnoringAsciiCase · name)

/-- The reference in a match of the pattern; `none` when nothing of the path is left without its
quotes. -/
def ofMatch? (m : Match) : Option TableReference := do
  let path := String.ofList (unquoteL (← m.group? 1).text)
  if path = "" then none
  let alias? := (m.group? 2).map fun found => String.ofList (unquoteL found.text)
  some { path, aliasName := (alias?.filter isAlias).getD path }

/-- Where the search goes on after a match: right after the path, since the name after it may be
the keyword of the next reference. -/
def resume (m : Match) : List Char :=
  ((m.group? 1).map (·.rest)).getD m.after

/-- The table references of a text from left to right. -/
def findAll (text : List Char) : List TableReference :=
  (pattern.scan resume 0 none text).filterMap ofMatch?

end TableReference

end QueryAssist
