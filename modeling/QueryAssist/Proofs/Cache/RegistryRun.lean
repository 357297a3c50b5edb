import QueryAssist.Catalog.InMemory
import QueryAssist.Proofs.Cache.RegistryEffect

/-!
# What a registry owns

A registry is used by many: ids are opened, looked up, invalidated and disposed of, and the
connections that were handed out are used all the while, also after they have left the registry.

* `Owns` — the connections in use are those not yet disposed of, each under its own id.
* `Owns.effect_step`, `Owns.effect` — every operation has one of the effects, and every effect keeps
  the ownership; so it holds along every run.
* `owns_connections` — **a registry owns the connections in use.**
-/

namespace QueryAssist

namespace Cache

namespace Registry

/-! ## Ownership -/

/-- The entries of a registry form a map; they are of connections that are not disposed of, with the
ids that these have; and all other connections are disposed of. -/
structure Owns (registry : Registry) : Prop where
  found : ∀ {id handle}, (id, handle) ∈ registry.live → registry.find? id = some handle
  inUse : ∀ {id handle}, (id, handle) ∈ registry.live →
    ∃ connection, registry.connections[handle]? = some connection ∧ connection.id = id ∧
      connection.disposed = false
  others : ∀ {handle connection}, registry.connections[handle]? = some connection →
    (∀ id, (id, handle) ∉ registry.live) → connection.disposed = true

section

variable {registry next : Registry} {id other : String} {handle : Nat} {operation : Operation}

/-- The connection of a handle that is found for an id has this id. -/
theorem Owns.id_eq (owns : Owns registry) (found : registry.find? id = some handle)
    {connection : Connection} (known : registry.connections[handle]? = some connection) :
    connection.id = id := by
  obtain ⟨owned, at_handle, id_eq, -⟩ := owns.inUse (registry.mem_live_of_find? found)
  rw [at_handle] at known
  rw [← Option.some.inj known, id_eq]

/-- Every operation has one of the effects. -/
theorem Owns.effect_step (owns : Owns registry) (operation : Operation) :
    Effect registry operation (registry.step operation) := by
  cases operation with
  | openConnection id catalog timeout =>
    cases known : registry.find? id with
    | none =>
      rw [step, registry.openConnection_of_none known]
      exact .opened id catalog timeout known
    | some handle =>
      rw [step, registry.openConnection_of_some known]
      exact .same
  | find id => exact .same
  | invalidate id =>
    rw [step, invalidate]
    cases known : registry.find? id with
    | none => exact .same
    | some handle =>
      exact .used handle Connection.invalidate (fun _ => .invalidate _)
        fun _ at_handle => congrArg some (owns.id_eq known at_handle).symm
  | dispose id =>
    rw [step, dispose]
    cases known : registry.find? id with
    | none => exact .same
    | some handle => exact .disposed id handle known
  | closeAll => exact .closed
  | complete id engine text cursor =>
    rw [step]
    cases known : registry.find? id with
    | none =>
      rw [complete, known]
      exact .same
    | some handle =>
      rw [registry.complete_fst known]
      exact .used handle _ (fun _ => .complete _ engine text cursor)
        fun _ at_handle => congrArg some (owns.id_eq known at_handle).symm
  | getSchema handle =>
    rw [step, getSchema_fst]
    exact .used handle _ (fun _ => .getSchema _)
      fun _ at_handle => congrArg (Option.map _) at_handle
  | request handle =>
    exact .used handle _ (fun _ => .request _)
      fun _ at_handle => congrArg (Option.map _) at_handle
  | drop handle =>
    exact .used handle _ (fun _ => .invalidate _)
      fun _ at_handle => congrArg (Option.map _) at_handle
  | advance duration => exact .advanced duration

/-! ### What keeps the ownership -/

/-- A change that keeps what connections are keeps the ownership. -/
theorem Owns.modify (owns : Owns registry) {change : Connection → Connection}
    (continues : ∀ connection : Connection, connection.Continues (change connection))
    (handle : Nat) : Owns (registry.modify handle change) := by
  refine ⟨?_, ?_, ?_⟩
  · intro id place entry
    rw [live_modify] at entry
    rw [find?_modify]
    exact owns.found entry
  · intro id place entry
    rw [live_modify] at entry
    obtain ⟨connection, known, id_eq, live⟩ := owns.inUse entry
    obtain ⟨later, continues, at_place⟩ := registry.exists_getElem?_modify continues handle place
    refine ⟨later connection, ?_, ?_, ?_⟩
    · rw [at_place, known, Option.map_some]
    · rw [(continues connection).id_eq, id_eq]
    · rw [(continues connection).disposed_eq, live]
  · intro place connection known unowned
    rw [live_modify] at unowned
    obtain ⟨later, continues, at_place⟩ := registry.exists_getElem?_modify continues handle place
    rw [at_place] at known
    obtain ⟨before, at_before, rfl⟩ := Option.map_eq_some_iff.1 known
    rw [(continues before).disposed_eq]
    exact owns.others at_before unowned

/-- A new connection for an id that has none is owned like the others. -/
theorem Owns.opening (owns : Owns registry) (free : registry.find? id = none) (catalog : Catalog)
    (timeout : Nat) : Owns (registry.opening id catalog timeout) := by
  refine ⟨?_, ?_, ?_⟩
  · intro other place entry
    rw [find?_opening]
    rcases List.mem_append.1 entry with old | new
    · rw [owns.found old, Option.some_or]
    · cases List.mem_singleton.1 new
      rw [free, if_pos rfl, Option.none_or]
  · intro other place entry
    rcases List.mem_append.1 entry with old | new
    · obtain ⟨connection, known, facts⟩ := owns.inUse old
      have inside := (List.getElem?_eq_some_iff.1 known).1
      exact ⟨connection, (List.getElem?_append_left inside).trans known, facts⟩
    · cases List.mem_singleton.1 new
      exact ⟨_, List.getElem?_concat_length, rfl, rfl⟩
  · intro place connection known unowned
    have old : ∀ id, (id, place) ∉ registry.live := fun id entry =>
      unowned id (List.mem_append_left _ entry)
    rcases Nat.lt_or_ge place registry.connections.length with inside | beyond
    · rw [Registry.opening, List.getElem?_append_left inside] at known
      exact owns.others known old
    · have last : place = registry.connections.length := by
        have bound := (List.getElem?_eq_some_iff.1 known).1
        rw [Registry.opening, List.length_append, List.length_singleton] at bound
        omega
      exact absurd (List.mem_append_right _ (last ▸ List.mem_singleton_self _)) (unowned id)

/-- The connection that is found for an id can be forgotten when it is disposed of. -/
theorem Owns.disposing (owns : Owns registry) (found : registry.find? id = some handle) :
    Owns ((registry.forgetting id).modify handle Connection.dispose) := by
  refine ⟨?_, ?_, ?_⟩
  · intro other place entry
    rw [live_modify, mem_live_forgetting] at entry
    rw [find?_modify, find?_forgetting, if_neg entry.2]
    exact owns.found entry.1
  · intro other place entry
    rw [live_modify, mem_live_forgetting] at entry
    obtain ⟨connection, known, id_eq, live⟩ := owns.inUse entry.1
    have apart : connection.id ≠ id := id_eq ▸ entry.2
    exact ⟨connection, (registry.forgetting id).getElem?_modify_of_id_ne
      (fun _ => owns.id_eq found) known apart _, id_eq, live⟩
  · intro place connection known unowned
    simp only [live_modify, mem_live_forgetting] at unowned
    rw [getElem?_modify] at known
    obtain ⟨before, at_before, rfl⟩ := Option.map_eq_some_iff.1 known
    split
    · rfl
    · next apart =>
      refine owns.others at_before fun other entry => ?_
      -- the only entry that is gone now is the one of the id, and that has another handle
      have same : other = id := by
        by_contra differs
        exact unowned other ⟨entry, differs⟩
      have again := owns.found entry
      rw [same, found] at again
      exact apart (Option.some.inj again).symm

/-- When all connections are closed, none is owned, and all are disposed of. -/
theorem Owns.closeAll (owns : Owns registry) : Owns registry.closeAll := by
  have gone : ∀ entry, entry ∉ registry.closeAll.live := by
    rw [live_closeAll]
    exact fun _ => List.not_mem_nil
  refine ⟨fun entry => absurd entry (gone _), fun entry => absurd entry (gone _), ?_⟩
  intro place connection known _
  obtain ⟨before, at_before, disposed⟩ := exists_of_disposeAll _ known
  apply disposed
  by_cases owned : ∃ id, (id, place) ∈ registry.live
  · exact .inr owned
  · exact .inl (owns.others at_before fun id entry => owned ⟨id, entry⟩)

/-- Every effect keeps the ownership. -/
theorem Owns.effect (owns : Owns registry) (effect : Effect registry operation next) :
    Owns next := by
  cases effect with
  | same => exact owns
  | advanced => exact ⟨owns.found, owns.inUse, owns.others⟩
  | opened id catalog timeout free => exact owns.opening free catalog timeout
  | used handle change continues => exact owns.modify continues handle
  | disposed id handle found => exact owns.disposing found
  | closed => exact owns.closeAll

/-- What holds at first and is kept by every effect of some operations holds after them, and so does
the ownership. -/
theorem Owns.run_induction {motive : Registry → Prop} {operations : List Operation}
    (owns : Owns registry) (start : motive registry)
    (keeps : ∀ {registry operation next}, operation ∈ operations →
      Effect registry operation next → motive registry → motive next) :
    Owns (registry.run operations) ∧ motive (registry.run operations) := by
  induction operations generalizing registry with
  | nil => exact ⟨owns, start⟩
  | cons operation operations ih =>
    have effect := owns.effect_step operation
    exact ih (owns.effect effect) (keeps List.mem_cons_self effect start)
      fun later => keeps (List.mem_cons_of_mem operation later)

theorem Owns.run (owns : Owns registry) (operations : List Operation) :
    Owns (registry.run operations) :=
  (owns.run_induction (motive := fun _ => True) trivial fun _ _ _ => trivial).1

theorem owns_empty : Owns empty where
  found entry := absurd entry List.not_mem_nil
  inUse entry := absurd entry List.not_mem_nil
  others := nofun

/-! ## Operations on one id -/

/-- An operation on one id leaves the entries of the others and their connections as they are. -/
theorem Owns.apart (owns : Owns registry) (effect : Effect registry operation next)
    (concerns : operation.id? registry = some id) (apart : other ≠ id) :
    next.find? other = registry.find? other ∧
      ∀ (handle : Nat) (connection : Connection), registry.connections[handle]? = some connection →
        connection.id = other → next.connections[handle]? = some connection := by
  cases effect with
  | same => exact ⟨rfl, fun _ _ known _ => known⟩
  | advanced => exact ⟨rfl, fun _ _ known _ => known⟩
  | opened opened catalog timeout =>
    obtain rfl : opened = id := Option.some.inj concerns
    refine ⟨?_, fun handle connection known _ => ?_⟩
    · rw [find?_opening, if_neg apart, Option.or_none]
    · have inside := (List.getElem?_eq_some_iff.1 known).1
      exact (List.getElem?_append_left inside).trans known
  | used used change _ own =>
    refine ⟨registry.find?_modify used change other, fun handle connection known id_eq => ?_⟩
    refine registry.getElem?_modify_of_id_ne (fun connection at_used => ?_) known
      (id_eq ▸ apart) change
    exact Option.some.inj ((own connection at_used).symm.trans concerns)
  | disposed disposed used found =>
    obtain rfl : disposed = id := Option.some.inj concerns
    refine ⟨?_, fun handle connection known id_eq => ?_⟩
    · rw [find?_modify, find?_forgetting, if_neg apart]
    · exact (registry.forgetting disposed).getElem?_modify_of_id_ne (fun _ => owns.id_eq found)
        known (id_eq ▸ apart) Connection.dispose
  | closed => cases concerns

/-! ## Handles -/

/-- The connection that is found for an id has this id and is in use. -/
theorem Owns.connection?_of_find? (owns : Owns registry) (found : registry.find? id = some handle) :
    ∃ connection, registry.connection? handle = some connection ∧ connection.id = id ∧
      connection.disposed = false := by
  obtain ⟨connection, known, id_eq, live⟩ := owns.inUse (registry.mem_live_of_find? found)
  have continues := Connection.Continues.passUntil connection registry.now
  refine ⟨connection.passUntil registry.now, ?_, ?_, ?_⟩
  · rw [connection?, known, Option.map_some]
  · rw [continues.id_eq, id_eq]
  · rw [continues.disposed_eq, live]

/-- A connection without an entry is disposed of. -/
theorem Owns.disposed_of_not_mem (owns : Owns registry) {connection : Connection}
    (known : registry.connection? handle = some connection)
    (unowned : ∀ id, (id, handle) ∉ registry.live) : connection.disposed = true := by
  obtain ⟨before, at_before, rfl⟩ := Option.map_eq_some_iff.1 known
  rw [(Connection.Continues.passUntil before registry.now).disposed_eq]
  exact owns.others at_before unowned

/-! ## Opening, closing and opening again -/

/-- An opened connection is found until it is closed. -/
theorem Owns.find?_run_of_opened (owns : Owns registry) (catalog : Catalog) (timeout : Nat)
    {later : List Operation} (kept : ∀ operation ∈ later, operation.closes id = false) :
    ((registry.openConnection id catalog timeout).1.run later).find? id =
      some (registry.openConnection id catalog timeout).2 := by
  have opened := owns.effect (owns.effect_step (.openConnection id catalog timeout))
  exact (opened.run_induction (registry.find?_openConnection id catalog timeout)
    fun member effect found => effect.find?_some found (kept _ member)).2

/-- Nothing is found for a closed id until it is opened. -/
theorem Owns.find?_run_of_closed (owns : Owns registry) {closing : Operation}
    {later : List Operation} (closes : closing.closes id = true)
    (unopened : ∀ operation ∈ later, operation.opens id = false) :
    ((registry.step closing).run later).find? id = none := by
  have closed := owns.effect (owns.effect_step closing)
  exact (closed.run_induction (find?_step_of_closes closes)
    fun member effect free => effect.find?_none free (unopened _ member)).2

/-- An id without a connection gets a new one, over the catalog and with the timeout that are
given. -/
theorem opened_anew (free : registry.find? id = none) (catalog : Catalog) (timeout : Nat) :
    let opened := registry.openConnection id catalog timeout
    registry.connection? opened.2 = none ∧ opened.1.find? id = some opened.2 ∧
      ∃ connection, opened.1.connection? opened.2 = some connection ∧ connection.id = id ∧
        connection.catalog = catalog ∧ connection.flow.timeout = timeout ∧
        connection.disposed = false := by
  intro opened
  have created : opened = (registry.opening id catalog timeout, registry.connections.length) :=
    registry.openConnection_of_none free catalog timeout
  refine ⟨?_, registry.find?_openConnection id catalog timeout, ?_⟩
  · rw [created]
    exact registry.connection?_length
  · rw [created]
    exact registry.connection?_opening id catalog timeout

end

/-- **A registry owns the connections in use**, whatever has been done with it and with the
connections it has handed out, as long as only the registry disposes of them.

* The entries are what is found for the ids, and a connection that is found for an id has this id
  and is not disposed of.
* A connection without an entry is disposed of.
* The handle one gets for an id is the one that is found, and the one that is got again, until the
  id is disposed of or all are closed.
* After that, nothing is found until the id is opened again; and then its connection is a new one,
  over the catalog and with the timeout that are given then.
* An operation on one id changes neither the entry of another nor a connection with another id.
* The results of an invalidation and a disposal tell whether the id has an entry. -/
theorem owns_connections (operations : List Operation) :
    let registry := empty.run operations
    (∀ id handle, ((id, handle) ∈ registry.live ↔ registry.find? id = some handle) ∧
      (registry.find? id = some handle →
        ∃ connection, registry.connection? handle = some connection ∧ connection.id = id ∧
          connection.disposed = false)) ∧
    (∀ handle connection, registry.connection? handle = some connection →
      (∀ id, (id, handle) ∉ registry.live) → connection.disposed = true) ∧
    (∀ id catalog timeout later, (∀ operation ∈ later, operation.closes id = false) →
      let opened := registry.openConnection id catalog timeout
      let last := opened.1.run later
      last.find? id = some opened.2 ∧
        ∀ catalog timeout, last.openConnection id catalog timeout = (last, opened.2)) ∧
    (∀ id closing later, closing.closes id = true →
      (∀ operation ∈ later, operation.opens id = false) →
      let last := (registry.step closing).run later
      last.find? id = none ∧ ∀ catalog timeout,
        let opened := last.openConnection id catalog timeout
        last.connection? opened.2 = none ∧ opened.1.find? id = some opened.2 ∧
          ∃ connection, opened.1.connection? opened.2 = some connection ∧ connection.id = id ∧
            connection.catalog = catalog ∧ connection.flow.timeout = timeout ∧
            connection.disposed = false) ∧
    (∀ id operation, operation.id? registry = some id → ∀ other, other ≠ id →
      (registry.step operation).find? other = registry.find? other ∧
      ∀ (handle : Nat) connection, registry.connections[handle]? = some connection →
        connection.id = other →
        (registry.step operation).connections[handle]? = some connection) ∧
    (∀ id, (registry.invalidate id).2 = (registry.find? id).isSome ∧
      (registry.dispose id).2 = (registry.find? id).isSome) := by
  intro registry
  have owns : Owns registry := owns_empty.run operations
  refine ⟨?_, ?_, ?_, ?_, ?_, ?_⟩
  · exact fun id handle =>
      ⟨⟨owns.found, registry.mem_live_of_find?⟩, fun found => owns.connection?_of_find? found⟩
  · exact fun handle connection known => owns.disposed_of_not_mem known
  · intro id catalog timeout later kept opened last
    have found : last.find? id = some opened.2 := owns.find?_run_of_opened catalog timeout kept
    exact ⟨found, fun catalog timeout => last.openConnection_of_some found catalog timeout⟩
  · intro id closing later closes unopened last
    have free : last.find? id = none := owns.find?_run_of_closed closes unopened
    exact ⟨free, fun catalog timeout => opened_anew free catalog timeout⟩
  · exact fun id operation concerns other apart =>
      owns.apart (owns.effect_step operation) concerns apart
  · intro id
    rw [invalidate, dispose]
    cases registry.find? id <;> exact ⟨rfl, rfl⟩

/-- Two connections are opened, both are used, and one is disposed of: the other is kept, until all
are closed; and it can then be opened again with another timeout. -/
theorem owns_connections_two :
    let catalog := Catalog.ofTables [] [] 5
    let registry := empty.run [.openConnection "a" catalog 60, .openConnection "b" catalog 60,
      .request 0, .getSchema 1, .dispose "a"]
    (∃ connection, registry.connection? 1 = some connection ∧ connection.id = "b" ∧
      connection.disposed = false) ∧
    (∃ connection, registry.connection? 0 = some connection ∧ connection.disposed = true) ∧
    ((registry.openConnection "b" catalog 30).1.run [.drop 1, .dispose "a"]).find? "b" = some 1 ∧
    (let again := ((registry.step .closeAll).run [.find "b"]).openConnection "b" catalog 30
      ∃ connection, again.1.connection? again.2 = some connection ∧
        connection.flow.timeout = 30 ∧ connection.disposed = false) ∧
    (registry.step (.invalidate "b")).find? "a" = registry.find? "a" ∧
    (registry.dispose "b").2 = true := by
  intro catalog registry
  obtain ⟨entries, others, kept, closed, apart, results⟩ :=
    owns_connections [.openConnection "a" catalog 60, .openConnection "b" catalog 60,
      .request 0, .getSchema 1, .dispose "a"]
  have found : registry.find? "b" = some 1 := rfl
  have opened := registry.openConnection_of_some found catalog 30
  refine ⟨(entries "b" 1).2 found, ?_, ?_, ?_, ?_, ?_⟩
  · refine ⟨_, rfl, others 0 _ rfl fun id entry => ?_⟩
    have only_b : (id, 0) ∈ [("b", 1)] := entry
    simp at only_b
  · have stays := (kept "b" catalog 30 [.drop 1, .dispose "a"] (by simp [Operation.closes])).1
    exact stays.trans (congrArg (some ·.2) opened)
  · obtain ⟨connection, known, -, -, timeout, disposed⟩ :=
      ((closed "b" .closeAll [.find "b"] rfl (by simp [Operation.opens])).2 catalog 30).2.2
    exact ⟨connection, known, timeout, disposed⟩
  · exact (apart "b" (.invalidate "b") rfl "a" (by decide)).1
  · exact (results "b").2

end Registry

end Cache

end QueryAssist
