import QueryAssist.Data.Decode
import QueryAssist.Dialect.Function

/-!
# Dialects and functions as data
-/

namespace QueryAssist

open Value

namespace Dialect

/-- A dialect as data: its canonical name. -/
def encode (dialect : Dialect) : Value :=
  .text dialect.name

/-- Reads a dialect; only canonical names are taken. -/
def decode (value : Value) : Decoded Dialect :=
  value.asVariant (all.map fun dialect => (dialect.name, dialect))

end Dialect

namespace FunctionKind

/-- The name of a kind of function. -/
def name : FunctionKind → String
  | scalar => "Scalar"
  | aggregate => "Aggregate"
  | window => "Window"

/-- Reads a kind of function. -/
def decode (value : Value) : Decoded FunctionKind :=
  value.asVariant ([scalar, aggregate, window].map fun kind => (kind.name, kind))

end FunctionKind

namespace SqlFunction

/-- The fields of a function. -/
def shape : RecordShape :=
  ⟨"SqlFunction", [("name", .required), ("function_type", .required),
    ("signature", .optional), ("description", .optional)]⟩

/-- A function as data; what is not known about it is null. -/
def encode (f : SqlFunction) : Value :=
  .record [("name", .text f.name), ("function_type", .text f.kind.name),
    ("signature", orNull .text f.signature), ("description", orNull .text f.description)]

/-- Reads a function. -/
def decode (value : Value) : Decoded SqlFunction := do
  let members ← shape.members value
  let name ← Decoded.required members "name" asText
  let kind ← Decoded.required members "function_type" FunctionKind.decode
  let signature ← Decoded.optional members "signature" asText
  let description ← Decoded.optional members "description" asText
  return { name, kind, signature, description }

end SqlFunction

end QueryAssist
