import QueryAssist.Suggestion.Basic
import QueryAssist.Text.Distinct
import QueryAssist.Text.LetterCase

/-!
# Ranking

The order and the selection of a completion list: entries are sorted by their sort text, of
entries with one label the first stays, and those remain whose label begins with the current word
when case does not matter.
-/

namespace QueryAssist

open Text

namespace Suggestion

/-- Whether one entry may stand before another. -/
def before (a b : Suggestion) : Bool :=
  a.sortText ≤ b.sortText

/-- Whether the label of an entry begins with a word, both in lower case. -/
def hasWord (word : String) (item : Suggestion) : Bool :=
  (lowercaseL word.toList).isPrefixOf (lowercaseL item.label.toList)

/-- The entries in the order of the list: sorted, one for every label, and only those that begin
with the word. -/
def select (items : List Suggestion) (word : String) : List Suggestion :=
  (distinctBy label (items.mergeSort before)).filter (hasWord word)

/-- The entry with a span to replace, if there is one. -/
def replacing (span : Option Span) (item : Suggestion) : Suggestion :=
  { item with span := span.or item.span }

/-- The completion list of some entries: at most `limit` of them, each replacing the span if one
is given. -/
def rank (items : List Suggestion) (word : String) (span : Option Span) (limit : Option Nat) :
    List Suggestion :=
  let selected := select items word
  ((limit.map selected.take).getD selected).map (replacing span)

end Suggestion

end QueryAssist
