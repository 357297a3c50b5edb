import QueryAssist.Cache.Registry
import QueryAssist.Proofs.Cache.Continuity

/-!
# What an operation does to a registry

* `Operation` — what can be done with a registry and with the connections it has handed out, and
  which id that concerns.  `step` is one operation and `run` a number of them.
* `getElem?_modify` — a change of one connection, seen from any handle.
* `Effect` — all that one operation can make of a registry.
* `Effect.find?_some`, `Effect.find?_none` — how long an id has an entry, and how long it has none.
-/

namespace QueryAssist

namespace Cache

namespace Registry

/-! ## Operations -/

/-- What can be done with a registry, and with a connection whose handle one has got from it.
Only the registry disposes of connections. -/
inductive Operation where
  | openConnection (id : String) (catalog : Catalog) (timeout : Nat)
  | find (id : String)
  | invalidate (id : String)
  | dispose (id : String)
  | closeAll
  | complete (id : String) (engine : Engine) (text : String) (cursor : Position)
  /-- a request to the connection of a handle, from its beginning to its end -/
  | getSchema (handle : Nat)
  /-- a request to the connection of a handle, which goes on in the time that passes -/
  | request (handle : Nat)
  /-- the connection of a handle drops its snapshot -/
  | drop (handle : Nat)
  | advance (duration : Nat)

/-- The id of the connection of a handle. -/
def id? (registry : Registry) (handle : Nat) : Option String :=
  registry.connections[handle]?.map (·.id)

namespace Operation

/-- The id that an operation concerns; the others concern none or all. -/
def id? (registry : Registry) : Operation → Option String
  | openConnection id _ _ | find id | invalidate id | dispose id | complete id _ _ _ => some id
  | getSchema handle | request handle | drop handle => registry.id? handle
  | closeAll | advance _ => none

/-- An operation that creates a connection for an id if it has none. -/
def opens (id : String) : Operation → Bool
  | openConnection other _ _ => other == id
  | _ => false

/-- An operation that disposes of the connection for an id if it has one. -/
def closes (id : String) : Operation → Bool
  | dispose other => other == id
  | closeAll => true
  | _ => false

end Operation

/-- One operation. -/
def step (registry : Registry) : Operation → Registry
  | .openConnection id catalog timeout => (registry.openConnection id catalog timeout).1
  | .find _ => registry
  | .invalidate id => (registry.invalidate id).1
  | .dispose id => (registry.dispose id).1
  | .closeAll => registry.closeAll
  | .complete id engine text cursor => (registry.complete id engine text cursor).1
  | .getSchema handle => (registry.getSchema handle).1
  | .request handle => registry.modify handle (·.request.1)
  | .drop handle => registry.modify handle Connection.invalidate
  | .advance duration => registry.advance duration

/-- A number of operations, one after the other. -/
def run (registry : Registry) (operations : List Operation) : Registry :=
  operations.foldl step registry

section

variable (registry : Registry) {id other : String} {handle : Nat} {connection : Connection}

/-! ## Changes of one connection -/

@[simp]
theorem live_modify (handle : Nat) (change : Connection → Connection) :
    (registry.modify handle change).live = registry.live := by
  unfold modify
  split <;> rfl

@[simp]
theorem find?_modify (handle : Nat) (change : Connection → Connection) (id : String) :
    (registry.modify handle change).find? id = registry.find? id := by
  rw [find?, live_modify, ← find?]

/-- A change concerns the connection of its handle, at the present time, and no other. -/
theorem getElem?_modify (handle : Nat) (change : Connection → Connection) (place : Nat) :
    (registry.modify handle change).connections[place]? =
      registry.connections[place]?.map fun connection =>
        if place = handle then change (connection.passUntil registry.now) else connection := by
  unfold modify connection?
  cases known : registry.connections[handle]? with
  | none =>
    by_cases same : place = handle
    · simp [same, known]
    · simp [same]
  | some connection =>
    have inside : handle < registry.connections.length := (List.getElem?_eq_some_iff.1 known).1
    simp only [Option.map_some, update, List.getElem?_set]
    by_cases same : place = handle
    · rw [same, if_pos rfl, if_pos inside, known, Option.map_some, if_pos rfl]
    · simp [same, Ne.symm same]

/-- A change that keeps what a connection is keeps what all connections are. -/
theorem exists_getElem?_modify {change : Connection → Connection}
    (continues : ∀ connection : Connection, connection.Continues (change connection))
    (handle place : Nat) :
    ∃ later : Connection → Connection,
      (∀ connection : Connection, connection.Continues (later connection)) ∧
      (registry.modify handle change).connections[place]? =
        registry.connections[place]?.map later := by
  refine ⟨_, fun connection => ?_, registry.getElem?_modify handle change place⟩
  split
  · exact (Connection.Continues.passUntil connection registry.now).trans (continues _)
  · exact .refl connection

/-- A change of a connection with one id leaves those with other ids as they are. -/
theorem getElem?_modify_of_id_ne {place : Nat}
    (own : ∀ connection, registry.connections[handle]? = some connection → connection.id = id)
    (known : registry.connections[place]? = some connection) (apart : connection.id ≠ id)
    (change : Connection → Connection) :
    (registry.modify handle change).connections[place]? = some connection := by
  rw [getElem?_modify, known, Option.map_some, if_neg]
  rintro rfl
  exact apart (own connection known)

theorem getSchema_fst (handle : Nat) :
    (registry.getSchema handle).1 = registry.modify handle (·.getSchema.1) := by
  unfold getSchema modify
  cases registry.connection? handle <;> rfl

theorem complete_fst (found : registry.find? id = some handle) (engine : Engine) (text : String)
    (cursor : Position) :
    (registry.complete id engine text cursor).1 =
      registry.modify handle (·.complete engine text cursor |>.1) := by
  simp only [complete, modify, found]
  cases registry.connection? handle <;> rfl

/-! ## Entries -/

theorem mem_live_of_find? (found : registry.find? id = some handle) :
    (id, handle) ∈ registry.live := by
  obtain ⟨before, after, split, -⟩ := List.lookup_eq_some_iff.1 found
  rw [split]
  exact List.mem_append_right before List.mem_cons_self

/-- Without the entries of one id, the other ids have the same entries. -/
theorem lookup_filter_ne (entries : List (String × Nat)) (id other : String) :
    (entries.filter (·.1 != id)).lookup other =
      if other = id then none else entries.lookup other := by
  induction entries with
  | nil => simp
  | cons entry entries ih =>
    obtain ⟨key, handle⟩ := entry
    by_cases own : key = id
    · rw [List.filter_cons_of_neg (by simpa using own), ih, List.lookup_cons]
      split
      · rfl
      · next apart => rw [beq_false_of_ne (own ▸ apart)]
    · rw [List.filter_cons_of_pos (by simpa using own), List.lookup_cons, List.lookup_cons, ih]
      by_cases same : other = key
      · subst same
        simp [own]
      · simp [beq_false_of_ne same]

/-! ## Entries that come and go -/

/-- The registry with a new connection for an id. -/
def opening (registry : Registry) (id : String) (catalog : Catalog) (timeout : Nat) : Registry :=
  { registry with
    connections := registry.connections ++ [.create id catalog timeout registry.now]
    live := registry.live ++ [(id, registry.connections.length)] }

/-- The registry without the entry for an id. -/
def forgetting (registry : Registry) (id : String) : Registry :=
  { registry with live := registry.live.filter (·.1 != id) }

theorem openConnection_of_none (free : registry.find? id = none) (catalog : Catalog)
    (timeout : Nat) :
    registry.openConnection id catalog timeout =
      (registry.opening id catalog timeout, registry.connections.length) := by
  rw [openConnection, free]
  rfl

theorem openConnection_of_some (found : registry.find? id = some handle) (catalog : Catalog)
    (timeout : Nat) : registry.openConnection id catalog timeout = (registry, handle) := by
  rw [openConnection, found]

theorem find?_opening (id : String) (catalog : Catalog) (timeout : Nat) (other : String) :
    (registry.opening id catalog timeout).find? other =
      (registry.find? other).or
        (if other = id then some registry.connections.length else none) := by
  simp only [find?, opening, List.lookup_append, List.lookup_cons, List.lookup_nil]
  by_cases same : other = id
  · simp [same]
  · rw [if_neg same, beq_false_of_ne same]

theorem find?_forgetting (id other : String) :
    (registry.forgetting id).find? other = if other = id then none else registry.find? other :=
  lookup_filter_ne registry.live id other

theorem mem_live_forgetting :
    (other, handle) ∈ (registry.forgetting id).live ↔
      (other, handle) ∈ registry.live ∧ other ≠ id := by
  simp [forgetting]

/-! ## Closing -/

/-- The registry after the connections of some entries have been disposed of. -/
def disposeAll (registry : Registry) (entries : List (String × Nat)) : Registry :=
  entries.foldl (fun registry entry => registry.modify entry.2 Connection.dispose) registry

theorem closeAll_eq_disposeAll :
    registry.closeAll = { registry with live := [] }.disposeAll registry.live :=
  rfl

theorem live_disposeAll (entries : List (String × Nat)) :
    (registry.disposeAll entries).live = registry.live := by
  induction entries generalizing registry with
  | nil => rfl
  | cons entry entries ih => exact (ih _).trans (registry.live_modify entry.2 _)

theorem live_closeAll : registry.closeAll.live = [] := by
  rw [closeAll_eq_disposeAll, live_disposeAll]

/-- The connections of the entries are disposed of, and those that were disposed of before stay so. -/
theorem exists_of_disposeAll {place : Nat} {entries : List (String × Nat)}
    (known : (registry.disposeAll entries).connections[place]? = some connection) :
    ∃ before, registry.connections[place]? = some before ∧
      (before.disposed = true ∨ (∃ id, (id, place) ∈ entries) → connection.disposed = true) := by
  induction entries generalizing registry with
  | nil =>
    refine ⟨connection, known, ?_⟩
    rintro (disposed | ⟨_, entry⟩)
    · exact disposed
    · exact absurd entry List.not_mem_nil
  | cons entry entries ih =>
    obtain ⟨middle, at_middle, disposed⟩ := ih _ known
    rw [getElem?_modify] at at_middle
    obtain ⟨before, at_before, rfl⟩ := Option.map_eq_some_iff.1 at_middle
    refine ⟨before, at_before, fun reason => disposed ?_⟩
    -- at its own place the first entry gives the reason, elsewhere the reason is as before
    split
    · exact .inl rfl
    · next apart =>
      refine reason.imp_right ?_
      rintro ⟨id, entered⟩
      rcases List.mem_cons.1 entered with here | later
      · exact absurd (congrArg Prod.snd here) apart
      · exact ⟨id, later⟩

/-! ## Opening -/

/-- The handle one gets for an id is found for it from then on. -/
theorem find?_openConnection (id : String) (catalog : Catalog) (timeout : Nat) :
    (registry.openConnection id catalog timeout).1.find? id =
      some (registry.openConnection id catalog timeout).2 := by
  cases known : registry.find? id with
  | none =>
    rw [registry.openConnection_of_none known, find?_opening, known, if_pos rfl, Option.none_or]
  | some handle => rw [registry.openConnection_of_some known, known]

/-- A new connection has the next handle, and the id, the catalog and the timeout that are given. -/
theorem connection?_opening (id : String) (catalog : Catalog) (timeout : Nat) :
    ∃ connection, (registry.opening id catalog timeout).connection? registry.connections.length =
        some connection ∧ connection.id = id ∧ connection.catalog = catalog ∧
      connection.flow.timeout = timeout ∧ connection.disposed = false := by
  let fresh : Connection := .create id catalog timeout registry.now
  have continues := Connection.Continues.passUntil fresh registry.now
  refine ⟨fresh.passUntil registry.now, ?_, continues.id_eq, continues.catalog_eq,
    continues.timeout_eq, continues.disposed_eq⟩
  rw [connection?, opening, List.getElem?_concat_length, Option.map_some]

/-- The next handle has not been given to any connection. -/
theorem connection?_length : registry.connection? registry.connections.length = none := by
  rw [connection?, List.getElem?_eq_none (Nat.le_refl _), Option.map_none]

end

/-! ## What an operation can do -/

/-- All that an operation can make of a registry: nothing changes, time passes, a connection is
used, created or disposed of, or all are. -/
inductive Effect (registry : Registry) : Operation → Registry → Prop
  | same {operation : Operation} : Effect registry operation registry
  | advanced (duration : Nat) : Effect registry (.advance duration) (registry.advance duration)
  | opened (id : String) (catalog : Catalog) (timeout : Nat) (free : registry.find? id = none) :
      Effect registry (.openConnection id catalog timeout) (registry.opening id catalog timeout)
  | used {operation : Operation} (handle : Nat) (change : Connection → Connection)
      (continues : ∀ connection : Connection, connection.Continues (change connection))
      (own : ∀ connection, registry.connections[handle]? = some connection →
        operation.id? registry = some connection.id) :
      Effect registry operation (registry.modify handle change)
  | disposed (id : String) (handle : Nat) (found : registry.find? id = some handle) :
      Effect registry (.dispose id) ((registry.forgetting id).modify handle Connection.dispose)
  | closed : Effect registry .closeAll registry.closeAll

section

variable {registry next : Registry} {id : String} {handle : Nat} {operation : Operation}

/-- A connection stays in use until it is closed. -/
theorem Effect.find?_some (effect : Effect registry operation next)
    (found : registry.find? id = some handle) (kept : operation.closes id = false) :
    next.find? id = some handle := by
  cases effect with
  | same => exact found
  | advanced => exact found
  | opened other catalog timeout => rw [find?_opening, found, Option.some_or]
  | used => rwa [find?_modify]
  | disposed other =>
    have apart : id ≠ other := (ne_of_beq_false kept).symm
    rwa [find?_modify, find?_forgetting, if_neg apart]
  | closed => cases kept

/-- An id stays without a connection until one is created for it. -/
theorem Effect.find?_none (effect : Effect registry operation next)
    (free : registry.find? id = none) (unopened : operation.opens id = false) :
    next.find? id = none := by
  cases effect with
  | same => exact free
  | advanced => exact free
  | opened other catalog timeout =>
    have apart : id ≠ other := (ne_of_beq_false unopened).symm
    rw [find?_opening, free, if_neg apart, Option.or_none]
  | used => rwa [find?_modify]
  | disposed other =>
    rw [find?_modify, find?_forgetting]
    split
    · rfl
    · exact free
  | closed => rw [find?, live_closeAll, List.lookup_nil]

/-- Closing leaves no entry behind. -/
theorem find?_step_of_closes (closes : operation.closes id = true) :
    (registry.step operation).find? id = none := by
  cases operation with
  | dispose other =>
    obtain rfl : other = id := eq_of_beq closes
    rw [step, dispose]
    cases known : registry.find? other with
    | none => exact known
    | some handle =>
      have forgotten := registry.find?_forgetting other other
      rw [if_pos rfl] at forgotten
      exact (find?_modify _ _ _ _).trans forgotten
  | closeAll => rw [step, find?, live_closeAll, List.lookup_nil]
  | _ => cases closes

end

end Registry

end Cache

end QueryAssist
