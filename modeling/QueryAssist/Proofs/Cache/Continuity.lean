import QueryAssist.Proofs.Cache.FetchCourse

/-!
# What a connection keeps

A connection in use changes all the time, but not its id, its catalog or its timeout, and only a
disposal disposes of its cache.

* `Continues` — these four things are the same as before.
* `continues_of_step` — every event of its cache but the disposal keeps them.
* `Continues.passUntil`, `Continues.getSchema`, `Continues.complete` — so do the passing of time and
  whole requests.
-/

namespace QueryAssist

namespace Cache

/-- Only a disposal disposes of a cache. -/
theorem Flow.disposed_step {flow : Flow} {event : Event} (keeps : event ≠ .dispose) :
    (flow.step event).1.state.disposed = flow.state.disposed := by
  have change := flow.change_step event
  generalize (flow.step event).1 = next at *
  generalize (flow.step event).2 = reply at *
  cases change with
  | disposed => exact absurd rfl keeps
  | _ => rfl

namespace Connection

/-- A connection at a later time, which has not been disposed of since: id, catalog and timeout are
the same, and its cache is disposed of only if it was before. -/
structure Continues (connection next : Connection) : Prop where
  id_eq : next.id = connection.id
  catalog_eq : next.catalog = connection.catalog
  timeout_eq : next.flow.timeout = connection.flow.timeout
  disposed_eq : next.disposed = connection.disposed

namespace Continues

variable {first second third : Connection}

theorem refl (connection : Connection) : Continues connection connection :=
  ⟨rfl, rfl, rfl, rfl⟩

theorem trans (h : Continues first second) (h' : Continues second third) :
    Continues first third where
  id_eq := h'.id_eq.trans h.id_eq
  catalog_eq := h'.catalog_eq.trans h.catalog_eq
  timeout_eq := h'.timeout_eq.trans h.timeout_eq
  disposed_eq := h'.disposed_eq.trans h.disposed_eq

end Continues

variable (connection : Connection)

/-- Whatever else is changed, an event other than a disposal keeps what a connection is. -/
theorem continues_of_step (event : Event) (keeps : event ≠ .dispose) {next : Connection}
    (id_eq : next.id = connection.id) (catalog_eq : next.catalog = connection.catalog)
    (flow_eq : next.flow = (connection.flow.step event).1) : Continues connection next where
  id_eq := id_eq
  catalog_eq := catalog_eq
  timeout_eq := by
    rw [flow_eq]
    exact (connection.flow.change_step event).timeout_eq
  disposed_eq := by
    rw [disposed, flow_eq]
    exact Flow.disposed_step keeps

/-- An invalidation keeps what a connection is. -/
theorem Continues.invalidate : Continues connection connection.invalidate :=
  connection.continues_of_step .invalidate nofun rfl rfl rfl

/-! ## Requests and fetches -/

theorem Continues.resume (request : Nat) : Continues connection (connection.resume request) :=
  connection.continues_of_step (.resume request) nofun rfl rfl rfl

theorem Continues.conclude (fetch : Nat) : Continues connection (connection.conclude fetch) := by
  unfold Connection.conclude
  generalize (connection.flow.waiting.filter (·.fetch == fetch)).map (·.request) = requests
  induction requests generalizing connection with
  | nil => exact .refl connection
  | cons request requests ih =>
    exact (Continues.resume connection request).trans (ih (connection.resume request))

theorem Continues.proceed (fetch : Nat) (progress : Fetch.Progress) :
    Continues connection (connection.proceed fetch progress) := by
  refine proceed_induction (motive := Continues connection) ?_ ?_ (.refl connection) progress
  · intro next outcome h
    exact h.trans (next.continues_of_step (.settle fetch outcome) nofun rfl rfl rfl)
  · exact fun next running calls h => ⟨h.id_eq, h.catalog_eq, h.timeout_eq, h.disposed_eq⟩

theorem Continues.attend (fetch : Nat) : Continues connection (connection.attend fetch) := by
  simp only [Connection.attend]
  split
  · exact .refl connection
  · refine Continues.trans ?_ (Continues.proceed _ fetch _)
    exact ⟨rfl, rfl, rfl, rfl⟩

/-! ## Time -/

theorem Continues.setTime (time : Nat) : Continues connection (connection.setTime time) :=
  connection.continues_of_step (.advance (time - connection.now)) nofun rfl rfl rfl

theorem Continues.tick (limit : Option Nat) : Continues connection (connection.tick limit) := by
  unfold Connection.tick
  split
  · exact .refl connection
  · next stage _ =>
    split
    · exact .refl connection
    · exact ((Continues.setTime connection stage.due).trans (Continues.attend _ stage.fetch)).trans
        (Continues.conclude _ stage.fetch)

theorem Continues.settle (limit : Option Nat) :
    Continues connection (connection.settle limit) := by
  unfold Connection.settle
  generalize connection.stagesLeft = count
  induction count with
  | zero => exact .refl connection
  | succ count ih => exact ih.trans (Continues.tick _ limit)

/-- The passing of time keeps what a connection is. -/
theorem Continues.passUntil (time : Nat) : Continues connection (connection.passUntil time) :=
  (Continues.settle connection (some time)).trans (Continues.setTime _ time)

/-! ## Whole requests -/

theorem Continues.request : Continues connection connection.request.1 := by
  have keeps : Event.request ≠ .dispose := Event.noConfusion
  simp only [Connection.request]
  split
  · refine Continues.trans ?_ ((Continues.proceed _ _ _).trans (Continues.resume _ _))
    exact connection.continues_of_step .request keeps rfl rfl rfl
  · exact connection.continues_of_step .request keeps rfl rfl rfl

/-- A request from its beginning to its end keeps what a connection is. -/
theorem Continues.getSchema : Continues connection connection.getSchema.1 :=
  (Continues.request connection).trans (Continues.settle _ none)

theorem Continues.complete (engine : Engine) (text : String) (cursor : Position) :
    Continues connection (connection.complete engine text cursor).1 :=
  Continues.getSchema connection

end Connection

end Cache

end QueryAssist
