import QueryAssist.Cache.State
import QueryAssist.Catalog.Error
import QueryAssist.Schema.Basic

/-!
# The flow of requests through a cache

A flow is a cache with all its fetches and all the requests that wait.  What happens to it is a
sequence of events in any order: requests begin and go on, fetches end, time passes, the cache is
invalidated or disposed of.  `Flow.step` is one event and `Flow.run` a sequence of them; an event
that cannot happen changes nothing.
-/

namespace QueryAssist

namespace Cache

/-- A fetch; its outcome is known once it has ended. -/
structure Attempt where
  generation : Nat
  outcome : Option (Except CatalogError Schema) := none

/-- A request that waits for a fetch. -/
structure Ticket where
  request : Nat
  generation : Nat
  fetch : Nat
  deriving DecidableEq, Repr

/-- What a request returns: an empty schema made for it, or the snapshot of a fetch. -/
inductive Answer where
  | empty
  | snapshot (fetch : Nat)
  deriving DecidableEq, Repr

/-- The end of a request. -/
structure Reply where
  request : Nat
  answer : Answer
  deriving DecidableEq, Repr

/-- A cache in use.  Requests and fetches are numbered from 0 in the order they begin. -/
structure Flow where
  timeout : Nat
  now : Nat
  state : State := {}
  attempts : List Attempt := []
  requests : Nat := 0
  waiting : List Ticket := []

/-- What happens to a cache. -/
inductive Event where
  /-- a request begins -/
  | request
  /-- a fetch ends -/
  | settle (fetch : Nat) (outcome : Except CatalogError Schema)
  /-- a request whose fetch has ended goes on -/
  | resume (request : Nat)
  | invalidate
  | dispose
  /-- time passes -/
  | advance (duration : Nat)

namespace Flow

/-- A cache that has not been used. -/
def create (timeout : Nat) (now : Nat) : Flow :=
  { timeout, now }

/-! ## Views -/

/-- The outcome of a fetch that has ended. -/
def outcome? (flow : Flow) (fetch : Nat) : Option (Except CatalogError Schema) :=
  flow.attempts[fetch]?.bind (·.outcome)

/-- The schema that an answer stands for. -/
def schemaOf (flow : Flow) : Answer → Schema
  | .empty => Schema.empty
  | .snapshot fetch =>
    match flow.outcome? fetch with
    | some (.ok schema) => schema
    | _ => Schema.empty

/-- The ticket of a request that waits. -/
def ticket? (flow : Flow) (request : Nat) : Option Ticket :=
  flow.waiting.find? (·.request == request)

/-! ## Events -/

/-- A request begins: it is answered at once or waits. -/
def request (flow : Flow) : Flow × Option Reply :=
  let fresh := flow.attempts.length
  let (admission, state) := flow.state.enter flow.timeout flow.now fresh
  let flow' := { flow with state, requests := flow.requests + 1 }
  match admission with
  | .refused => (flow', some ⟨flow.requests, .empty⟩)
  | .served fetch => (flow', some ⟨flow.requests, .snapshot fetch⟩)
  | .joined generation fetch =>
    ({ flow' with waiting := flow.waiting ++ [⟨flow.requests, generation, fetch⟩] }, none)
  | .started generation fetch =>
    ({ flow' with
        attempts := flow.attempts ++ [{ generation }]
        waiting := flow.waiting ++ [⟨flow.requests, generation, fetch⟩] }, none)

/-- A fetch ends, if it is under way. -/
def settle (flow : Flow) (fetch : Nat) (outcome : Except CatalogError Schema) : Flow :=
  match flow.attempts[fetch]? with
  | some { generation, outcome := none } =>
    { flow with attempts := flow.attempts.set fetch { generation, outcome := some outcome } }
  | _ => flow

/-- A request goes on, if it waits for a fetch that has ended. -/
def resume (flow : Flow) (request : Nat) : Flow × Option Reply :=
  match flow.ticket? request with
  | none => (flow, none)
  | some ticket =>
    match flow.outcome? ticket.fetch with
    | none => (flow, none)
    | some outcome =>
      let (serves, state) :=
        flow.state.leave flow.now ticket.generation ticket.fetch outcome.isOk
      ({ flow with state, waiting := flow.waiting.filter (·.request != request) },
        some ⟨request, if serves then .snapshot ticket.fetch else .empty⟩)

/-- One event; a request that it ends gets its reply. -/
def step (flow : Flow) : Event → Flow × Option Reply
  | .request => flow.request
  | .settle fetch outcome => (flow.settle fetch outcome, none)
  | .resume request => flow.resume request
  | .invalidate => ({ flow with state := flow.state.invalidate }, none)
  | .dispose => ({ flow with state := flow.state.dispose }, none)
  | .advance duration => ({ flow with now := flow.now + duration }, none)

/-- A sequence of events, with the replies in their order. -/
def run (flow : Flow) : List Event → Flow × List Reply
  | [] => (flow, [])
  | event :: events =>
    let (next, reply) := flow.step event
    let (last, replies) := next.run events
    (last, reply.toList ++ replies)

end Flow

end Cache

end QueryAssist
