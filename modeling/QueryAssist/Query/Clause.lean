import QueryAssist.Query.Keyword
import QueryAssist.Text.LetterCase

/-!
# Clauses

The clauses of a query and the keywords that open them.  `Clause.keyword` is the pattern of those
keywords, `Clause.label` the normal form of a match, and `Clause.ofLabel?` the clause a label
stands for.
-/

namespace QueryAssist

open Text Query

/-- The clauses that decide what may stand at the cursor. -/
inductive Clause where
  | select
  | source
  | filter
  | having
  | joinCondition
  | join
  | grouping
  | ordering
  deriving DecidableEq, Repr

namespace Clause

/-! ## Patterns -/

/-- The words that may stand before a join keyword. -/
def joinKinds : List String :=
  ["LEFT", "RIGHT", "FULL", "INNER", "CROSS", "NATURAL"]

/-- A join keyword with the words before it. -/
def joinKeyword : Pattern :=
  .all [
    .maybe (.all [.anyOf (joinKinds.map spelled), blanks]),
    .maybe (.all [spelled "OUTER", blanks]),
    spelled "JOIN"]

/-- The keywords that open a clause. -/
def keyword : Pattern :=
  .all [
    wordEdge,
    .anyOf [
      spelled "SELECT",
      spelled "FROM",
      spelled "WHERE",
      spelled "HAVING",
      spelled "ON",
      .all [spelled "GROUP", blanks, spelled "BY"],
      .all [spelled "ORDER", blanks, spelled "BY"],
      joinKeyword],
    wordEdge]

/-- The keyword `FROM`. -/
def sourceKeyword : Pattern :=
  loneWord "FROM"

/-- The keyword `ON`. -/
def joinConditionKeyword : Pattern :=
  loneWord "ON"

/-! ## Labels -/

/-- The label of a clause keyword as written: its words with their ASCII letters in upper case,
separated by single blanks. -/
def label (written : List Char) : String :=
  " ".intercalate ((fieldsL written).map fun word => asciiUpper (String.ofList word))

/-- The clause that a label stands for. -/
def ofLabel? (label : String) : Option Clause :=
  if label = "SELECT" then some select
  else if label = "FROM" then some source
  else if label = "WHERE" then some filter
  else if label = "HAVING" then some having
  else if label = "ON" then some joinCondition
  else if label = "GROUP BY" then some grouping
  else if label = "ORDER BY" then some ordering
  else if "JOIN".toList.isSuffixOf label.toList then some join
  else none

end Clause

end QueryAssist
