import QueryAssist.Suggestion.Ranking
import QueryAssist.Suggestion.Source

/-!
# The completion engine

What is offered at a cursor: the context decides which sources are asked, and the answers are
ranked by the current word.
-/

namespace QueryAssist

/-- An engine for one connection. -/
structure Engine where
  dialect : Dialect
  /-- the current database of the session -/
  database : Option String := none
  /-- the greatest length of a completion list -/
  limit : Option Nat := none
  deriving DecidableEq, Repr

namespace Engine

/-- The entries for a context, before they are ranked. -/
def offers (engine : Engine) (context : QueryContext) (schema : Schema) : List Suggestion :=
  let dialect := engine.dialect
  let tables := dialect.suggestTables schema engine.database
  let columns := dialect.suggestColumns context schema engine.database
  match context.kind with
  | .keyword | .unknown =>
    dialect.suggestKeywords KeywordSet.standard ++ tables ++ dialect.suggestFunctions
  | .selectComplete =>
    dialect.suggestKeywords (KeywordSet.clauses.merge dialect.clauseKeywords)
  | .source | .joinTarget => tables
  | .selectStart => Suggestion.wildcard :: columns ++ dialect.suggestFunctions
  | .column | .condition => columns ++ dialect.suggestFunctions
  | .function => dialect.suggestFunctions

/-- The completion list for a context.  An entry replaces the current word, if there is one. -/
def suggest (engine : Engine) (context : QueryContext) (schema : Schema) : List Suggestion :=
  let span := if context.currentWord = "" then none else some context.wordSpan
  Suggestion.rank (engine.offers context schema) context.currentWord span engine.limit

/-- The completion list for a cursor in a text. -/
def complete (engine : Engine) (text : String) (cursor : Position) (schema : Schema) :
    List Suggestion :=
  engine.suggest (QueryContext.parse text cursor) schema

end Engine

end QueryAssist
