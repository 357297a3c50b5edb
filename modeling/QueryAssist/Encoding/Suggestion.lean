import QueryAssist.Encoding.Position
import QueryAssist.Suggestion.Basic

/-!
# Suggestions as data
-/

namespace QueryAssist

open Value

namespace SuggestionKind

/-- The kinds of suggestions. -/
def all : List SuggestionKind :=
  [keyword, table, column, function, operator]

/-- The name of a kind of suggestion. -/
def name : SuggestionKind → String
  | keyword => "keyword"
  | table => "class"
  | column => "field"
  | function => "function"
  | operator => "operator"

/-- Reads a kind of suggestion. -/
def decode (value : Value) : Decoded SuggestionKind :=
  value.asVariant (all.map fun kind => (kind.name, kind))

end SuggestionKind

namespace Tier

/-- The name of a tier. -/
def name : Tier → String
  | keyword => "Keyword"
  | table => "Table"
  | qualifiedTable => "QualifiedTable"
  | function => "Function"
  | column => "Column"
  | qualifiedColumn => "QualifiedColumn"
  | aliasedColumn => "AliasedColumn"
  | dialectAggregate => "DialectAggregate"

/-- A tier as data. -/
def encode (tier : Tier) : Value :=
  .text tier.name

/-- Reads a tier. -/
def decode (value : Value) : Decoded Tier :=
  value.asVariant (all.map fun tier => (tier.name, tier))

end Tier

namespace Suggestion

/-- The fields of a suggestion. -/
def shape : RecordShape :=
  ⟨"Suggestion", [("label", .required), ("kind", .required), ("insertText", .required),
    ("detail", .defaulted), ("documentation", .defaulted), ("sortText", .required),
    ("range", .defaulted)]⟩

/-- A suggestion as data. -/
def encode (item : Suggestion) : Value :=
  .record ([("label", .text item.label), ("kind", .text item.kind.name),
    ("insertText", .text item.insertText)] ++ member? "detail" .text item.detail ++
    member? "documentation" .text item.documentation ++ [("sortText", .text item.sortText)] ++
    member? "range" Span.encode item.span)

/-- Reads a suggestion. -/
def decode (value : Value) : Decoded Suggestion := do
  let members ← shape.members value
  let label ← Decoded.required members "label" asText
  let kind ← Decoded.required members "kind" SuggestionKind.decode
  let insertText ← Decoded.required members "insertText" asText
  let detail ← Decoded.optional members "detail" asText
  let documentation ← Decoded.optional members "documentation" asText
  let sortText ← Decoded.required members "sortText" asText
  let span ← Decoded.optional members "range" Span.decode
  return { label, kind, insertText, detail, documentation, sortText, span }

/-- The fields of a completion list. -/
def listShape : RecordShape :=
  ⟨"SuggestionList", [("suggestions", .required)]⟩

/-- A completion list as data. -/
def encodeList (items : List Suggestion) : Value :=
  .record [("suggestions", .list (items.map encode))]

/-- Reads a completion list. -/
def decodeList (value : Value) : Decoded (List Suggestion) := do
  let members ← listShape.members value
  Decoded.required members "suggestions" (asList decode)

end Suggestion

end QueryAssist
