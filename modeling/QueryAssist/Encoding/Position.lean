import QueryAssist.Data.Decode
import QueryAssist.Data.Word
import QueryAssist.Text.Position

/-!
# Positions and spans as data
-/

namespace QueryAssist

/-- Reads a line or column number. -/
def Value.asIndex (value : Value) : Decoded UInt32 :=
  UInt32.ofNat <$> value.asBelow Word.bound32 "u32"

namespace Position

/-- The fields of a position. -/
def shape : RecordShape :=
  ⟨"Position", [("line", .required), ("column", .required)]⟩

/-- A position as data. -/
def encode (position : Position) : Value :=
  .record [("line", .natural position.line.toNat), ("column", .natural position.column.toNat)]

/-- Reads a position. -/
def decode (value : Value) : Decoded Position := do
  let members ← shape.members value
  let line ← Decoded.required members "line" Value.asIndex
  let column ← Decoded.required members "column" Value.asIndex
  return { line, column }

end Position

namespace Span

/-- The fields of a span. -/
def shape : RecordShape :=
  ⟨"Span", [("start", .required), ("end", .required)]⟩

/-- A span as data. -/
def encode (span : Span) : Value :=
  .record [("start", span.start.encode), ("end", span.stop.encode)]

/-- Reads a span. -/
def decode (value : Value) : Decoded Span := do
  let members ← shape.members value
  let start ← Decoded.required members "start" Position.decode
  let stop ← Decoded.required members "end" Position.decode
  return { start, stop }

end Span

end QueryAssist
