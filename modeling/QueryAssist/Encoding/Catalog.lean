import QueryAssist.Catalog.Basic
import QueryAssist.Data.Decode
import QueryAssist.Data.Word

/-!
# Catalog errors as data
-/

namespace QueryAssist

open Value

namespace CatalogError

/-- The name of the kind of an error. -/
def kind : CatalogError → String
  | connectionFailed _ => "ConnectionFailed"
  | queryFailed _ => "QueryFailed"
  | queryTimeout _ => "QueryTimeout"
  | databaseNotFound _ => "DatabaseNotFound"
  | tableNotFound _ _ => "TableNotFound"
  | unreadableDocument _ => "SerializationError"
  | invalidConfiguration _ => "ConfigurationError"
  | permissionDenied _ => "PermissionDenied"
  | notSupported _ => "NotSupported"
  | fileFailure _ => "Io"

/-- What an error tells besides its kind. -/
def details : CatalogError → Value
  | connectionFailed reason | queryFailed reason | unreadableDocument reason
  | invalidConfiguration reason | permissionDenied reason | fileFailure reason => .text reason
  | queryTimeout seconds => .natural seconds.toNat
  | databaseNotFound database => .text database
  | tableNotFound table database => .texts [table, database]
  | notSupported feature => .text feature

/-- An error as data: a record whose only member has the name of its kind. -/
def encode (error : CatalogError) : Value :=
  .record [(error.kind, error.details)]

/-- The error of a kind with given details. -/
def ofKind (kind : String) (details : List Value) : Decoded CatalogError :=
  match kind, details with
  | "ConnectionFailed", [reason] => .connectionFailed <$> asText reason
  | "QueryFailed", [reason] => .queryFailed <$> asText reason
  | "QueryTimeout", [seconds] =>
    (fun n => .queryTimeout (UInt64.ofNat n)) <$> asBelow Word.bound64 "u64" seconds
  | "DatabaseNotFound", [database] => .databaseNotFound <$> asText database
  | "TableNotFound", [table, database] => .tableNotFound <$> asText table <*> asText database
  | "SerializationError", [reason] => .unreadableDocument <$> asText reason
  | "ConfigurationError", [reason] => .invalidConfiguration <$> asText reason
  | "PermissionDenied", [reason] => .permissionDenied <$> asText reason
  | "NotSupported", [feature] => .notSupported <$> asText feature
  | "Io", [reason] => .fileFailure <$> asText reason
  | _, _ => .error (.unknownVariant kind)

end CatalogError

end QueryAssist
