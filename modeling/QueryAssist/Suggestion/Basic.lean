import QueryAssist.Text.Position

/-!
# Suggestions

One entry of a completion list.  Its sort text begins with the digit of a tier, so that entries of
different kinds are listed in the order of their tiers.
-/

namespace QueryAssist

/-- What a suggestion stands for. -/
inductive SuggestionKind where
  | keyword
  | table
  | column
  | function
  | operator
  deriving DecidableEq, Repr

/-- The groups in which suggestions are listed. -/
inductive Tier where
  | keyword
  | table
  | qualifiedTable
  | function
  | column
  | qualifiedColumn
  | aliasedColumn
  | dialectAggregate
  deriving DecidableEq, Repr

namespace Tier

/-- The tiers in their order. -/
def all : List Tier :=
  [keyword, table, qualifiedTable, function, column, qualifiedColumn, aliasedColumn,
    dialectAggregate]

/-- The digit of a tier. -/
def digit : Tier → Char
  | keyword => '0'
  | table => '1'
  | qualifiedTable => '2'
  | function => '3'
  | column => '4'
  | qualifiedColumn => '5'
  | aliasedColumn => '6'
  | dialectAggregate => '7'

/-- The text by which an entry is sorted. -/
def sortText (tier : Tier) (label : String) : String :=
  String.ofList (tier.digit :: label.toList)

end Tier

/-- An entry of a completion list. -/
structure Suggestion where
  label : String
  kind : SuggestionKind
  /-- the text that is inserted, with the quotes of the dialect -/
  insertText : String
  detail : Option String := none
  documentation : Option String := none
  sortText : String
  /-- the span that is replaced -/
  span : Option Span := none
  deriving DecidableEq, Repr

/-- An entry that inserts its own label. -/
def Suggestion.plain (label : String) (kind : SuggestionKind) (tier : Tier) : Suggestion where
  label
  kind
  insertText := label
  sortText := tier.sortText label

end QueryAssist
