import QueryAssist.Cache.Flow

/-!
# What one event does to a cache

`Flow.Change` lists everything that one event can do to a flow, each case with what it requires
and what it leaves behind.  `change_step` says that `Flow.step` does one of these things, so that a
property of flows is kept by every event as soon as every case of `Change` keeps it.

The section before it says what a request does in each state of the slot.
-/

namespace QueryAssist

namespace Cache

/-- The slot waits for a generation exactly when it holds a fetch of that generation, and the
generation is the present one. -/
theorem State.awaits_iff {state : State} {generation : Nat} :
    state.awaits generation = true ↔
      (∃ fetch, state.slot = .fetching generation fetch) ∧ state.generation = generation := by
  unfold State.awaits
  cases state.slot with
  | empty => simp
  | ready fetch since => simp
  | fetching own fetch =>
    constructor
    · intro h
      obtain ⟨hown, hnow⟩ := Bool.and_eq_true_iff.1 h
      exact ⟨⟨fetch, by rw [eq_of_beq hown]⟩, eq_of_beq hnow⟩
    · rintro ⟨⟨other, hslot⟩, hnow⟩
      obtain ⟨rfl, -⟩ := Slot.fetching.inj hslot
      simp [hnow]

/-- A slot that holds a snapshot waits for nothing. -/
theorem State.awaits_of_ready {state : State} {fetch since : Nat}
    (slot : state.slot = .ready fetch since) (generation : Nat) :
    state.awaits generation = false := by
  simp [State.awaits, slot]

namespace Flow

/-! ## A request in each state of the slot -/

/-- A cache that is disposed of refuses a request. -/
theorem request_of_disposed {flow : Flow} (disposed : flow.state.disposed = true) :
    flow.request = ({ flow with requests := flow.requests + 1 }, some ⟨flow.requests, .empty⟩) := by
  simp [request, State.enter, disposed]

/-- A young snapshot is served at once, and nothing else changes. -/
theorem request_of_young {flow : Flow} {fetch since : Nat} (live : flow.state.disposed = false)
    (slot : flow.state.slot = .ready fetch since) (young : flow.now - since < flow.timeout) :
    flow.request =
      ({ flow with requests := flow.requests + 1 }, some ⟨flow.requests, .snapshot fetch⟩) := by
  simp [request, State.enter, live, slot, young]

/-- What a flow becomes when a request joins a fetch. -/
def joining (flow : Flow) (generation fetch : Nat) : Flow :=
  { flow with
    requests := flow.requests + 1
    waiting := flow.waiting ++ [⟨flow.requests, generation, fetch⟩] }

/-- A request joins the fetch in the slot. -/
theorem request_of_fetching {flow : Flow} {generation fetch : Nat}
    (live : flow.state.disposed = false) (slot : flow.state.slot = .fetching generation fetch) :
    flow.request = (flow.joining generation fetch, none) := by
  simp [request, State.enter, joining, live, slot]

/-- What a flow becomes when a request starts a fetch. -/
def starting (flow : Flow) : Flow :=
  { flow with
    state := { flow.state with slot := .fetching flow.state.generation flow.attempts.length }
    attempts := flow.attempts ++ [{ generation := flow.state.generation }]
    requests := flow.requests + 1
    waiting := flow.waiting ++ [⟨flow.requests, flow.state.generation, flow.attempts.length⟩] }

/-- A request starts a fetch when the slot is empty. -/
theorem request_of_empty {flow : Flow} (live : flow.state.disposed = false)
    (slot : flow.state.slot = .empty) : flow.request = (flow.starting, none) := by
  simp [request, State.enter, starting, live, slot]

/-- A request starts a fetch when the snapshot has got too old. -/
theorem request_of_old {flow : Flow} {fetch since : Nat} (live : flow.state.disposed = false)
    (slot : flow.state.slot = .ready fetch since) (old : flow.timeout ≤ flow.now - since) :
    flow.request = (flow.starting, none) := by
  simp [request, State.enter, starting, live, slot, Nat.not_lt.2 old]

/-- To start a fetch is not to join one. -/
theorem starting_ne_joining (flow : Flow) (generation fetch : Nat) :
    flow.starting ≠ flow.joining generation fetch := by
  intro h
  have hlength := congrArg (·.attempts.length) h
  simp [starting, joining] at hlength

/-! ## All changes -/

/-- What a flow becomes when a fetch ends. -/
def ending (flow : Flow) (fetch generation : Nat) (outcome : Except CatalogError Schema) : Flow :=
  { flow with attempts := flow.attempts.set fetch { generation, outcome := some outcome } }

/-- What a flow becomes when a request goes on: the slot may change, and the request no longer
waits. -/
def goingOn (flow : Flow) (request : Nat) (slot : Slot) : Flow :=
  { flow with
    state := { flow.state with slot }
    waiting := flow.waiting.filter (·.request != request) }

/-- What a request gets that goes on after its fetch has ended. -/
def answerFor (flow : Flow) (ticket : Ticket) (outcome : Except CatalogError Schema) : Answer :=
  if outcome.isOk && !flow.state.disposed then .snapshot ticket.fetch else .empty

/-- Everything that an event can do to a flow: the event, the flow after it, and the reply. -/
inductive Change (flow : Flow) : Event → Flow → Option Reply → Prop where
  /-- nothing happens, since the event is about a fetch that does not run or a request that cannot
  go on -/
  | idle (event : Event) : Change flow event flow none
  /-- a request begins in a cache that is disposed of -/
  | refused (disposed : flow.state.disposed = true) :
      Change flow .request { flow with requests := flow.requests + 1 }
        (some ⟨flow.requests, .empty⟩)
  /-- a request is served the snapshot in the slot -/
  | served (fetch since : Nat) (live : flow.state.disposed = false)
      (slot : flow.state.slot = .ready fetch since) (young : flow.now - since < flow.timeout) :
      Change flow .request { flow with requests := flow.requests + 1 }
        (some ⟨flow.requests, .snapshot fetch⟩)
  /-- a request joins the fetch in the slot -/
  | joined (generation fetch : Nat) (live : flow.state.disposed = false)
      (slot : flow.state.slot = .fetching generation fetch) :
      Change flow .request (flow.joining generation fetch) none
  /-- a request starts a fetch, since the slot holds nothing or an old snapshot -/
  | started (live : flow.state.disposed = false)
      (idle : ∀ generation fetch, flow.state.slot ≠ .fetching generation fetch)
      (old : ∀ fetch since, flow.state.slot = .ready fetch since →
        flow.timeout ≤ flow.now - since) :
      Change flow .request flow.starting none
  /-- a fetch that runs ends -/
  | settled (fetch generation : Nat) (outcome : Except CatalogError Schema)
      (running : flow.attempts[fetch]? = some { generation }) :
      Change flow (.settle fetch outcome) (flow.ending fetch generation outcome) none
  /-- a request goes on after a fetch that succeeded, and puts its snapshot into the slot -/
  | published (ticket : Ticket) (schema : Schema)
      (waits : flow.ticket? ticket.request = some ticket)
      (ended : flow.outcome? ticket.fetch = some (.ok schema))
      (awaited : flow.state.awaits ticket.generation = true) :
      Change flow (.resume ticket.request)
        (flow.goingOn ticket.request (.ready ticket.fetch flow.now))
        (some ⟨ticket.request, flow.answerFor ticket (.ok schema)⟩)
  /-- a request goes on after a fetch that failed, and clears the slot -/
  | cleared (ticket : Ticket) (error : CatalogError)
      (waits : flow.ticket? ticket.request = some ticket)
      (ended : flow.outcome? ticket.fetch = some (.error error))
      (awaited : flow.state.awaits ticket.generation = true) :
      Change flow (.resume ticket.request) (flow.goingOn ticket.request .empty)
        (some ⟨ticket.request, flow.answerFor ticket (.error error)⟩)
  /-- a request goes on without any effect on the slot, which does not wait for its generation -/
  | passed (ticket : Ticket) (outcome : Except CatalogError Schema)
      (waits : flow.ticket? ticket.request = some ticket)
      (ended : flow.outcome? ticket.fetch = some outcome)
      (strange : flow.state.awaits ticket.generation = false) :
      Change flow (.resume ticket.request) (flow.goingOn ticket.request flow.state.slot)
        (some ⟨ticket.request, flow.answerFor ticket outcome⟩)
  | invalidated : Change flow .invalidate { flow with state := flow.state.invalidate } none
  | disposed : Change flow .dispose { flow with state := flow.state.dispose } none
  | advanced (duration : Nat) :
      Change flow (.advance duration) { flow with now := flow.now + duration } none

/-- A request that begins does one of the things in `Change`. -/
theorem change_request (flow : Flow) :
    Change flow .request flow.request.1 flow.request.2 := by
  cases live : flow.state.disposed with
  | true =>
    rw [request_of_disposed live]
    exact .refused live
  | false =>
    cases slot : flow.state.slot with
    | empty =>
      rw [request_of_empty live slot]
      exact .started live (by simp [slot]) (by simp [slot])
    | fetching generation fetch =>
      rw [request_of_fetching live slot]
      exact .joined generation fetch live slot
    | ready fetch since =>
      by_cases young : flow.now - since < flow.timeout
      · rw [request_of_young live slot young]
        exact .served fetch since live slot young
      · have old := Nat.not_lt.1 young
        rw [request_of_old live slot old]
        refine .started live (by simp [slot]) ?_
        intro other time h
        obtain ⟨rfl, rfl⟩ := Slot.ready.inj (slot.symm.trans h)
        exact old

/-- The end of a fetch does one of the things in `Change`. -/
theorem change_settle (flow : Flow) (fetch : Nat) (outcome : Except CatalogError Schema) :
    Change flow (.settle fetch outcome) (flow.settle fetch outcome) none := by
  unfold settle
  split
  · next generation running => exact .settled fetch generation outcome running
  · exact .idle _

/-- The request of a ticket that is found is the one looked for. -/
theorem request_of_ticket? {flow : Flow} {request : Nat} {ticket : Ticket}
    (waits : flow.ticket? request = some ticket) : ticket.request = request := by
  simpa using List.find?_some waits

theorem mem_of_ticket? {flow : Flow} {request : Nat} {ticket : Ticket}
    (waits : flow.ticket? request = some ticket) : ticket ∈ flow.waiting :=
  List.mem_of_find?_eq_some waits

/-- A request goes on once its fetch has ended: the slot changes only if it waits for the
generation of the request. -/
theorem resume_of_ended {flow : Flow} {ticket : Ticket} {outcome : Except CatalogError Schema}
    (waits : flow.ticket? ticket.request = some ticket)
    (ended : flow.outcome? ticket.fetch = some outcome) :
    flow.resume ticket.request =
      (flow.goingOn ticket.request
        (if flow.state.awaits ticket.generation then
          if outcome.isOk then .ready ticket.fetch flow.now else .empty
        else flow.state.slot),
        some ⟨ticket.request, flow.answerFor ticket outcome⟩) := by
  simp [resume, waits, ended, State.leave, goingOn, answerFor]

/-- A request that goes on does one of the things in `Change`. -/
theorem change_resume (flow : Flow) (request : Nat) :
    Change flow (.resume request) (flow.resume request).1 (flow.resume request).2 := by
  cases waits : flow.ticket? request with
  | none => simpa [resume, waits] using Change.idle (.resume request)
  | some ticket =>
    obtain rfl := request_of_ticket? waits
    cases ended : flow.outcome? ticket.fetch with
    | none => simpa [resume, waits, ended] using Change.idle (.resume ticket.request)
    | some outcome =>
      rw [resume_of_ended waits ended]
      cases awaited : flow.state.awaits ticket.generation with
      | false => exact .passed ticket outcome waits ended awaited
      | true =>
        cases outcome with
        | ok schema => exact .published ticket schema waits ended awaited
        | error error => exact .cleared ticket error waits ended awaited

/-- **Every event does one of the things in `Change`.** -/
theorem change_step (flow : Flow) (event : Event) :
    Change flow event (flow.step event).1 (flow.step event).2 := by
  cases event with
  | request => exact flow.change_request
  | settle fetch outcome => exact flow.change_settle fetch outcome
  | resume request => exact flow.change_resume request
  | invalidate => exact .invalidated
  | dispose => exact .disposed
  | advance duration => exact .advanced duration

end Flow

end Cache

end QueryAssist
