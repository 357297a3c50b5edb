import QueryAssist.Encoding.Position
import QueryAssist.Query.Context

/-!
# Contexts as data
-/

namespace QueryAssist

open Value

namespace ContextKind

/-- All kinds of contexts. -/
def all : List ContextKind :=
  [selectStart, selectComplete, source, condition, joinTarget, column, function, keyword, unknown]

/-- The name of a kind of context. -/
def name : ContextKind → String
  | selectStart => "select"
  | selectComplete => "select_complete"
  | source => "from"
  | condition => "where"
  | joinTarget => "join"
  | column => "column"
  | function => "function"
  | keyword => "keyword"
  | unknown => "unknown"

/-- Reads a kind of context. -/
def decode (value : Value) : Decoded ContextKind :=
  value.asVariant (all.map fun kind => (kind.name, kind))

end ContextKind

namespace QueryContext

/-- The fields of a context. -/
def shape : RecordShape :=
  ⟨"QueryContext", [("type", .required), ("currentClause", .optional),
    ("tableAliases", .required), ("availableTables", .required), ("cursorPosition", .required),
    ("precedingText", .required), ("currentWord", .required), ("wordRange", .required)]⟩

/-- A context as data. -/
def encode (context : QueryContext) : Value :=
  .record [("type", .text context.kind.name),
    ("currentClause", orNull .text context.clause),
    ("tableAliases", .record (context.aliases.entries.map fun (name, table) =>
      (name, .text table))),
    ("availableTables", .texts context.tables),
    ("cursorPosition", context.cursor.encode),
    ("precedingText", .text context.precedingText),
    ("currentWord", .text context.currentWord),
    ("wordRange", context.wordSpan.encode)]

/-- Reads a context. -/
def decode (value : Value) : Decoded QueryContext := do
  let members ← shape.members value
  let kind ← Decoded.required members "type" ContextKind.decode
  let clause ← Decoded.optional members "currentClause" asText
  let aliases ← Decoded.required members "tableAliases" (asMembers asText)
  let tables ← Decoded.required members "availableTables" (asList asText)
  let cursor ← Decoded.required members "cursorPosition" Position.decode
  let precedingText ← Decoded.required members "precedingText" asText
  let currentWord ← Decoded.required members "currentWord" asText
  let wordSpan ← Decoded.required members "wordRange" Span.decode
  return {
    kind
    clause
    aliases := Dictionary.ofList aliases
    tables
    cursor
    precedingText
    currentWord
    wordSpan }

end QueryContext

end QueryAssist
