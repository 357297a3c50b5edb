import QueryAssist.Catalog.Basic

/-!
# Catalogs from tables

A catalog over a list of tables.  It counts every call, answers after a fixed time, and can be
told to fail; three sets of tables of the usual shapes are at hand.
-/

namespace QueryAssist

namespace Catalog

/-- The databases of some tables, in the order in which they are first met. -/
def databasesOf (tables : List Table) : List String :=
  (tables.map (·.database)).eraseDups

/-- The first table of a name in a database. -/
def lookUp (tables : List Table) (database name : String) : CatalogAnswer Table :=
  match tables.find? fun table => table.database == database && table.name == name with
  | some table => .ok table
  | none => .error (.tableNotFound name database)

/-- The catalog of some tables.  A question of a kind that has an entry in `failures` fails with
that error, whatever its arguments. -/
def ofTables (tables : List Table) (failures : List (Endpoint × CatalogError)) (latency : Nat) :
    Catalog :=
  let check (endpoint : Endpoint) : CatalogAnswer Unit :=
    match failures.lookup endpoint with
    | some error => .error error
    | none => .ok ()
  { databases := do
      check .databases
      return databasesOf tables
    tables := fun database => do
      check .tables
      if database ∈ databasesOf tables then
        return (tables.filter (·.database == database)).map (·.name)
      else throw (.databaseNotFound database)
    columns := fun database name => do
      check .columns
      return (← lookUp tables database name).columns
    primaryKey := fun database name => do
      check .primaryKey
      return (← lookUp tables database name).primaryKey
    indexes := fun database name => do
      check .indexes
      return (← lookUp tables database name).indexes
    latency
    counted := Endpoint.all }

end Catalog

/-! ## Tables at hand -/

namespace SampleTables

/-- A shop's two databases: `app` with users, orders and products, and `analytics` with events. -/
def standard : List Table :=
  [{ database := "app"
     name := "users"
     columns := [
       { name := "id", dataType := "bigint" },
       { name := "email", dataType := "varchar(255)" },
       { name := "name", dataType := "varchar(100)", nullable := true },
       { name := "created_at", dataType := "timestamp", nullable := true,
         defaultValue := some "CURRENT_TIMESTAMP" }]
     indexes := some [{ name := "uk_users_email", columns := ["email"], unique := true }]
     primaryKey := some ["id"] },
   { database := "app"
     name := "orders"
     columns := [
       { name := "id", dataType := "bigint" },
       { name := "user_id", dataType := "bigint", comment := some "Owner of the order" },
       { name := "total", dataType := "decimal(10,2)", nullable := true },
       { name := "status", dataType := "varchar(50)" },
       { name := "created_at", dataType := "timestamp", nullable := true }]
     primaryKey := some ["id"] },
   { database := "app"
     name := "products"
     columns := [
       { name := "id", dataType := "bigint" },
       { name := "name", dataType := "varchar(255)" },
       { name := "price", dataType := "decimal(10,2)" },
       { name := "stock", dataType := "int", nullable := true }]
     primaryKey := some ["id"] },
   { database := "analytics"
     name := "events"
     columns := [
       { name := "id", dataType := "bigint" },
       { name := "user_id", dataType := "bigint" },
       { name := "kind", dataType := "varchar(32)" }] }]

/-- A database `shop` whose tables are reported with their schemas. -/
def postgres : List Table :=
  [{ database := "shop"
     name := "public.users"
     columns := [
       { name := "id", dataType := "integer" },
       { name := "email", dataType := "text" },
       { name := "createdAt", dataType := "timestamptz", nullable := true }]
     primaryKey := some ["id"] },
   { database := "shop"
     name := "public.orders"
     columns := [
       { name := "id", dataType := "integer" },
       { name := "user_id", dataType := "integer" },
       { name := "total", dataType := "numeric" }] },
   { database := "shop"
     name := "sales.invoices"
     columns := [
       { name := "id", dataType := "integer" },
       { name := "order_id", dataType := "integer" }] }]

/-- A database `main` in one file. -/
def sqlite : List Table :=
  [{ database := "main"
     name := "users"
     columns := [
       { name := "id", dataType := "INTEGER" },
       { name := "email", dataType := "TEXT" }] },
   { database := "main"
     name := "orders"
     columns := [
       { name := "id", dataType := "INTEGER" },
       { name := "user_id", dataType := "INTEGER" },
       { name := "total", dataType := "REAL", nullable := true }] }]

end SampleTables

end QueryAssist
