import QueryAssist.Encoding.Position
import QueryAssist.Suggestion.Basic

/-!
# The language server protocol

Editors count lines and columns from 0, and call the kinds of completion items by numbers.
-/

namespace QueryAssist

open Value

namespace Editor

/-- A position as an editor counts it, from 0. -/
structure Place where
  line : UInt32
  character : UInt32
  deriving DecidableEq, Repr

/-- A range as an editor counts it. -/
structure Range where
  start : Place
  stop : Place
  deriving DecidableEq, Repr

/-- The editor's place of one of our positions; 0 stays. -/
def Place.ofPosition (position : Position) : Place where
  line := if position.line = 0 then 0 else position.line - 1
  character := if position.column = 0 then 0 else position.column - 1

/-- Our position of an editor's place; the greatest number stays. -/
def Place.toPosition (place : Place) : Position where
  line := if place.line = 4294967295 then place.line else place.line + 1
  column := if place.character = 4294967295 then place.character else place.character + 1

/-- The editor's range of one of our spans. -/
def Range.ofSpan (span : Span) : Range :=
  ⟨Place.ofPosition span.start, Place.ofPosition span.stop⟩

/-- The number of a kind of completion items. -/
def kindNumber : SuggestionKind → Nat
  | .function => 3
  | .column => 5
  | .table => 7
  | .keyword => 14
  | .operator => 24

/-! ## Data -/

/-- An editor's place as data. -/
def Place.encode (place : Place) : Value :=
  .record [("line", .natural place.line.toNat), ("character", .natural place.character.toNat)]

/-- The fields of an editor's place. -/
def Place.shape : RecordShape :=
  ⟨"Place", [("line", .required), ("character", .required)]⟩

/-- Reads an editor's place. -/
def Place.decode (value : Value) : Decoded Place := do
  let members ← Place.shape.members value
  let line ← Decoded.required members "line" Value.asIndex
  let character ← Decoded.required members "character" Value.asIndex
  return { line, character }

/-- An editor's range as data. -/
def Range.encode (range : Range) : Value :=
  .record [("start", range.start.encode), ("end", range.stop.encode)]

/-- A suggestion as an editor's completion item.  It is found by its label; with a span it is an
edit of the text. -/
def encodeItem (item : Suggestion) : Value :=
  let edit (span : Span) : Value :=
    .record [("range", (Range.ofSpan span).encode), ("newText", .text item.insertText)]
  .record ([("label", .text item.label), ("kind", .natural (kindNumber item.kind))] ++
    member? "detail" .text item.detail ++ member? "documentation" .text item.documentation ++
    [("sortText", .text item.sortText), ("filterText", .text item.label),
      ("insertText", .text item.insertText)] ++ member? "textEdit" edit item.span)

/-- A completion list as an editor takes it. -/
def encodeItems (items : List Suggestion) : Value :=
  .list (items.map encodeItem)

/-- The options under which completion is announced: the characters that ask for it. -/
def encodeOptions (triggers : List Char) : Value :=
  .record [("triggerCharacters", .texts (triggers.map fun c => String.ofList [c]))]

end Editor

end QueryAssist
