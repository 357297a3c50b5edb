import QueryAssist.Cache.Connection

/-!
# The registry of connections

A registry keeps one connection per id, from when it is first asked for until it is disposed of.
Connections are known by the handles they got when they were created; a handle stays good after
its connection has left the registry.  All connections share one clock.
-/

namespace QueryAssist

namespace Cache

/-- The connections of a program. -/
structure Registry where
  /-- all connections ever created, by their handles -/
  connections : List Connection := []
  /-- the handles of the connections in use, by their ids -/
  live : List (String × Nat) := []
  now : Nat := 0

namespace Registry

/-- A registry without connections. -/
def empty : Registry := {}

/-- How many connections are in use. -/
def size (registry : Registry) : Nat :=
  registry.live.length

/-- The handle of the connection in use for an id. -/
def find? (registry : Registry) (id : String) : Option Nat :=
  registry.live.lookup id

/-- The connection of a handle, at the present time. -/
def connection? (registry : Registry) (handle : Nat) : Option Connection :=
  registry.connections[handle]?.map (·.passUntil registry.now)

/-- Puts the connection of a handle into a new state; the clock follows it. -/
def update (registry : Registry) (handle : Nat) (connection : Connection) : Registry :=
  { registry with
    connections := registry.connections.set handle connection
    now := max registry.now connection.now }

/-- Changes the connection of a handle, if there is one. -/
def modify (registry : Registry) (handle : Nat) (change : Connection → Connection) : Registry :=
  match registry.connection? handle with
  | some connection => registry.update handle (change connection)
  | none => registry

/-- Time passes. -/
def advance (registry : Registry) (duration : Nat) : Registry :=
  { registry with now := registry.now + duration }

/-- The handle of the connection for an id.  If the id has none in use, one is created over a
catalog with a timeout; otherwise both are ignored. -/
def openConnection (registry : Registry) (id : String) (catalog : Catalog) (timeout : Nat) :
    Registry × Nat :=
  match registry.find? id with
  | some handle => (registry, handle)
  | none =>
    let handle := registry.connections.length
    let connection := Connection.create id catalog timeout registry.now
    ({ registry with
        connections := registry.connections ++ [connection]
        live := registry.live ++ [(id, handle)] }, handle)

/-- Invalidates the connection for an id; the result tells whether there is one. -/
def invalidate (registry : Registry) (id : String) : Registry × Bool :=
  match registry.find? id with
  | some handle => (registry.modify handle Connection.invalidate, true)
  | none => (registry, false)

/-- Disposes of the connection for an id and forgets it; the result tells whether there is one. -/
def dispose (registry : Registry) (id : String) : Registry × Bool :=
  match registry.find? id with
  | some handle =>
    let rest := registry.live.filter (·.1 != id)
    ({ registry with live := rest }.modify handle Connection.dispose, true)
  | none => (registry, false)

/-- Disposes of all connections in use and forgets them. -/
def closeAll (registry : Registry) : Registry :=
  registry.live.foldl (fun registry entry => registry.modify entry.2 Connection.dispose)
    { registry with live := [] }

/-- Requests the schema from the connection of a handle. -/
def getSchema (registry : Registry) (handle : Nat) : Registry × Option Schema :=
  match registry.connection? handle with
  | some connection =>
    let (used, schema) := connection.getSchema
    (registry.update handle used, some schema)
  | none => (registry, none)

/-- The handle and the completion list of the connection for an id, for a cursor in a text. -/
def complete (registry : Registry) (id : String) (engine : Engine) (text : String)
    (cursor : Position) : Registry × Option (Nat × List Suggestion) :=
  match registry.find? id with
  | none => (registry, none)
  | some handle =>
    match registry.connection? handle with
    | none => (registry, none)
    | some connection =>
      let (used, items) := connection.complete engine text cursor
      (registry.update handle used, some (handle, items))

end Registry

end Cache

end QueryAssist
