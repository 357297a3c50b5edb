/-!
# Catalog errors

Why a catalog cannot answer a question about a connection.
-/

namespace QueryAssist

/-- Why a catalog cannot answer. -/
inductive CatalogError where
  | connectionFailed (reason : String)
  | queryFailed (reason : String)
  | queryTimeout (seconds : UInt64)
  | databaseNotFound (database : String)
  | tableNotFound (table database : String)
  /-- a schema document that cannot be read -/
  | unreadableDocument (reason : String)
  | invalidConfiguration (reason : String)
  | permissionDenied (reason : String)
  | notSupported (feature : String)
  /-- a file that cannot be read -/
  | fileFailure (reason : String)
  deriving DecidableEq, Repr

/-- The wording of an error. -/
def CatalogError.message : CatalogError → String
  | connectionFailed reason => "Failed to connect to database: " ++ reason
  | queryFailed reason => "Query execution failed: " ++ reason
  | queryTimeout seconds => "Query timed out after " ++ toString seconds.toNat ++ "s"
  | databaseNotFound database => "Database '" ++ database ++ "' not found"
  | tableNotFound table database =>
    "Table '" ++ table ++ "' not found in database '" ++ database ++ "'"
  | unreadableDocument reason => "Failed to serialize schema data: " ++ reason
  | invalidConfiguration reason => "Invalid catalog configuration: " ++ reason
  | permissionDenied reason => "Permission denied: " ++ reason
  | notSupported feature => "Feature not supported: " ++ feature
  | fileFailure reason => "I/O error: " ++ reason

end QueryAssist
