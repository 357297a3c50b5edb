import QueryAssist.Cache.Flow
import QueryAssist.Catalog.Fetch
import QueryAssist.Suggestion.Engine

/-!
# Connections

A connection is a cache before a catalog, in the course of time.  A fetch goes through its stages
one after the other; each stage asks the catalog that is current when it begins, and lasts as long
as that catalog needs to answer.  `Connection.get` is one request from beginning to end, and
`Connection.perform` any number of tasks side by side.
-/

namespace QueryAssist

namespace Cache

/-- A stage of a fetch that is under way. -/
structure Stage where
  fetch : Nat
  /-- when the questions of the stage are answered -/
  due : Nat
  /-- how far the fetch has come then -/
  next : Fetch.Progress

/-- A reply, and when it was given. -/
structure TimedReply where
  reply : Reply
  time : Nat
  deriving DecidableEq, Repr

/-- A connection in use. -/
structure Connection where
  id : String
  catalog : Catalog
  flow : Flow
  running : List Stage := []
  /-- the calls that the present catalog has counted -/
  calls : List Endpoint := []
  replies : List TimedReply := []

namespace Connection

/-- A new connection. -/
def create (id : String) (catalog : Catalog) (timeout : Nat) (now : Nat) : Connection where
  id
  catalog
  flow := .create timeout now

/-- The time. -/
def now (connection : Connection) : Nat :=
  connection.flow.now

/-- Whether the cache is disposed of. -/
def disposed (connection : Connection) : Bool :=
  connection.flow.state.disposed

/-! ## Changes from outside -/

/-- Drops the snapshot. -/
def invalidate (connection : Connection) : Connection :=
  { connection with flow := (connection.flow.step .invalidate).1 }

/-- Ends the use of the cache. -/
def dispose (connection : Connection) : Connection :=
  { connection with flow := (connection.flow.step .dispose).1 }

/-- Puts another catalog in place; it has not counted any call yet. -/
def swap (connection : Connection) (catalog : Catalog) : Connection :=
  { connection with catalog, calls := [] }

/-- Brings the time forward to a given one. -/
def setTime (connection : Connection) (time : Nat) : Connection :=
  { connection with flow := (connection.flow.step (.advance (time - connection.now))).1 }

/-! ## Fetches -/

/-- A request that waits goes on. -/
def resume (connection : Connection) (request : Nat) : Connection :=
  let (flow, reply?) := connection.flow.step (.resume request)
  let replies := connection.replies ++ reply?.toList.map fun reply => ⟨reply, flow.now⟩
  { connection with flow, replies }

/-- All requests that wait for a fetch go on, if it has ended. -/
def conclude (connection : Connection) (fetch : Nat) : Connection :=
  let requests := (connection.flow.waiting.filter (·.fetch == fetch)).map (·.request)
  requests.foldl resume connection

/-- A fetch goes on from where it has come to: its next stage begins, and stages that take no time
are gone through at once. -/
def proceed (connection : Connection) (fetch : Nat) (progress : Fetch.Progress) : Connection :=
  match unfinished : progress.outcome? with
  | some outcome => { connection with flow := (connection.flow.step (.settle fetch outcome)).1 }
  | none =>
    let catalog := connection.catalog
    let next := progress.advance catalog
    let counted :=
      ((progress.calls catalog).map (·.endpoint)).filter fun endpoint =>
        catalog.counted.contains endpoint
    let asked := { connection with calls := connection.calls ++ counted }
    let wait := progress.wait catalog
    if wait = 0 then asked.proceed fetch next
    else { asked with running := connection.running ++ [⟨fetch, connection.now + wait, next⟩] }
termination_by progress.stagesLeft
decreasing_by exact Fetch.Progress.stagesLeft_advance_lt _ _ unfinished

/-- A fetch goes on if its stage has ended by now. -/
def attend (connection : Connection) (fetch : Nat) : Connection :=
  let ended (stage : Stage) : Bool := stage.fetch == fetch && stage.due ≤ connection.now
  match connection.running.find? ended with
  | none => connection
  | some stage =>
    let others := connection.running.filter (·.fetch != fetch)
    { connection with running := others }.proceed fetch stage.next

/-! ## Time -/

/-- The stage that ends first; of stages that end together, the one that began first. -/
def nextStage? (connection : Connection) : Option Stage :=
  match connection.running with
  | [] => none
  | stage :: rest => some (rest.foldl (fun a b => if b.due < a.due then b else a) stage)

/-- Time passes until a stage ends, if that is before `limit`. -/
def tick (limit : Option Nat) (connection : Connection) : Connection :=
  match connection.nextStage? with
  | none => connection
  | some stage =>
    if limit.any (· < stage.due) then connection
    else
      ((connection.setTime stage.due).attend stage.fetch).conclude stage.fetch

/-- How many stages can still end. -/
def stagesLeft (connection : Connection) : Nat :=
  connection.running.foldl (fun count stage => count + stage.next.stagesLeft + 1) 0

/-- All stages end that can end by a given time, or ever. -/
def settle (limit : Option Nat) (connection : Connection) : Connection :=
  Nat.repeat (tick limit) connection.stagesLeft connection

/-- Time passes until a given one. -/
def passUntil (connection : Connection) (time : Nat) : Connection :=
  (connection.settle (some time)).setTime time

/-- Time passes for a while. -/
def advance (connection : Connection) (duration : Nat) : Connection :=
  connection.passUntil (connection.now + duration)

/-! ## Requests -/

/-- A request begins, with the number it gets. -/
def request (connection : Connection) : Connection × Nat :=
  let number := connection.flow.requests
  let fresh := connection.flow.attempts.length
  let (flow, reply?) := connection.flow.step .request
  let replies := connection.replies ++ reply?.toList.map fun reply => ⟨reply, flow.now⟩
  let begun := { connection with flow, replies }
  if fresh < flow.attempts.length then ((begun.proceed fresh .start).resume number, number)
  else (begun, number)

/-- The reply to a request. -/
def reply? (connection : Connection) (request : Nat) : Option TimedReply :=
  connection.replies.find? (·.reply.request == request)

/-- The answer to a request; there is nothing to tell about one that waits. -/
def answer (connection : Connection) (request : Nat) : Answer :=
  ((connection.reply? request).map (·.reply.answer)).getD .empty

/-- One request from its beginning to its end. -/
def get (connection : Connection) : Connection × Answer :=
  let (begun, number) := connection.request
  let ended := begun.settle none
  (ended, ended.answer number)

/-- The schema that a request returns. -/
def getSchema (connection : Connection) : Connection × Schema :=
  let (ended, answer) := connection.get
  (ended, ended.flow.schemaOf answer)

/-- The completion list for a cursor in a text, from the schema of the connection. -/
def complete (connection : Connection) (engine : Engine) (text : String) (cursor : Position) :
    Connection × List Suggestion :=
  let (ended, schema) := connection.getSchema
  (ended, engine.complete text cursor schema)

/-! ## Tasks side by side -/

/-- What a task does. -/
inductive Action where
  | get
  | invalidate
  | dispose
  | swap (catalog : Catalog)

/-- A task that begins after a delay. -/
structure Task where
  delay : Nat
  action : Action

/-- How a task ended: when, and with which answer if it was a request. -/
structure TaskResult where
  time : Nat
  answer : Option Answer := none
  deriving DecidableEq, Repr

/-- A task begins now, with the number of its request if it is one. -/
def beginTask (connection : Connection) : Action → Connection × Option Nat
  | .get =>
    let (begun, number) := connection.request
    (begun, some number)
  | .invalidate => (connection.invalidate, none)
  | .dispose => (connection.dispose, none)
  | .swap catalog => (connection.swap catalog, none)

/-- A task among others: whether it has begun, and then the number of its request if it is one. -/
structure Entry where
  task : Task
  begun : Bool := false
  request : Option Nat := none

/-- A request that waits goes on as far as its fetch has come. -/
def goOn (connection : Connection) (request : Nat) : Connection :=
  match connection.flow.ticket? request with
  | none => connection
  | some ticket => (connection.attend ticket.fetch).resume request

/-- The turn of a task: it begins if its time has come after `start`, and goes on as far as it
can. -/
def turn (start : Nat) (connection : Connection) (entry : Entry) : Connection × Entry :=
  if entry.begun then (entry.request.elim connection connection.goOn, entry)
  else if connection.now < start + entry.task.delay then (connection, entry)
  else
    let (begun, request) := connection.beginTask entry.task.action
    (request.elim begun begun.goOn, { entry with begun := true, request })

/-- One turn of every task, in their order. -/
def round (start : Nat) (connection : Connection) : List Entry → Connection × List Entry
  | [] => (connection, [])
  | entry :: rest =>
    let (next, entry) := connection.turn start entry
    let (last, rest) := round start next rest
    (last, entry :: rest)

/-- When something happens next: a stage ends, or a task begins. -/
def nextTime? (start : Nat) (connection : Connection) (entries : List Entry) : Option Nat :=
  let beginnings := (entries.filter (!·.begun)).map (start + ·.task.delay)
  (connection.running.map (·.due) ++ beginnings).min?

/-- Time passes until something happens, and every task has its turn. -/
def nextRound (start : Nat) : Connection × List Entry → Connection × List Entry
  | (connection, entries) =>
    match connection.nextTime? start entries with
    | none => (connection, entries)
    | some time => (connection.setTime time).round start entries

/-- Runs tasks side by side until all have ended; the results are in the order of the tasks.  A
task makes no more rounds necessary than one to begin it and one for every stage of a fetch. -/
def perform (connection : Connection) (tasks : List Task) : Connection × List TaskResult :=
  let start := connection.now
  let rounds := tasks.length * (Fetch.Progress.start.stagesLeft + 1)
  let entries := tasks.map ({ task := · })
  let (ended, entries) := Nat.repeat (nextRound start) rounds (connection, entries)
  let result (entry : Entry) : TaskResult :=
    match entry.request with
    | some request =>
      match ended.reply? request with
      | some timedReply => ⟨timedReply.time, some timedReply.reply.answer⟩
      | none => ⟨ended.now, some .empty⟩
    | none => ⟨start + entry.task.delay, none⟩
  (ended, entries.map result)

end Connection

end Cache

end QueryAssist
