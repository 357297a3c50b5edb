import QueryAssist.Catalog.Basic
import QueryAssist.Schema.Basic

/-!
# Fetching a schema

A schema is fetched in three stages: the databases, then the tables of every database, then the
details of every table.  The questions of one stage are asked side by side, and every answer is kept
together with the questions that were asked for it.  `Progress.stage` is one stage, and
`Catalog.fetch` is all three against one catalog.

A question about primary keys or indexes that fails leaves them unknown; any other failure ends
the fetch.
-/

namespace QueryAssist

/-- A question put to a catalog. -/
inductive CatalogCall where
  | databases
  | tables (database : String)
  | columns (database table : String)
  | primaryKey (database table : String)
  | indexes (database table : String)
  deriving DecidableEq, Repr

/-- The kind of a question. -/
def CatalogCall.endpoint : CatalogCall → Endpoint
  | databases => .databases
  | tables _ => .tables
  | columns _ _ => .columns
  | primaryKey _ _ => .primaryKey
  | indexes _ _ => .indexes

/-- What a question is answered with. -/
@[reducible]
def CatalogCall.Answer : CatalogCall → Type
  | databases => List String
  | tables _ => List String
  | columns _ _ => List Column
  | primaryKey _ _ => Option (List String)
  | indexes _ _ => Option (List Index)

/-- An answer that was put together from those of a catalog, with the questions that were asked for
it. -/
structure Asked (α : Type) where
  answer : CatalogAnswer α
  calls : List CatalogCall

/-- The same questions, and what is made of their answer. -/
def Asked.map {α β : Type} (f : α → β) (asked : Asked α) : Asked β where
  answer := asked.answer.map f
  calls := asked.calls

namespace Catalog

/-! ## Questions -/

/-- The answer to a question. -/
def answer (catalog : Catalog) : (call : CatalogCall) → CatalogAnswer call.Answer
  | .databases => catalog.databases
  | .tables database => catalog.tables database
  | .columns database table => catalog.columns database table
  | .primaryKey database table => catalog.primaryKey database table
  | .indexes database table => catalog.indexes database table

/-- Asks one question. -/
def ask (catalog : Catalog) (call : CatalogCall) : Asked call.Answer where
  answer := catalog.answer call
  calls := [call]

/-- Asks for the tables of a database; each is given with its database. -/
def askTables (catalog : Catalog) (database : String) : Asked (List (String × String)) :=
  (catalog.ask (.tables database)).map fun names => names.map (database, ·)

/-- Asks for all that a catalog tells about a table.  All three questions are asked, and only the
columns are needed. -/
def askDetails (catalog : Catalog) (entry : String × String) : Asked Table :=
  let columns := catalog.ask (.columns entry.1 entry.2)
  let primaryKey := catalog.ask (.primaryKey entry.1 entry.2)
  let indexes := catalog.ask (.indexes entry.1 entry.2)
  { answer := columns.answer.map fun columns => {
      database := entry.1
      name := entry.2
      columns
      indexes := indexes.answer.toOption.join
      primaryKey := primaryKey.answer.toOption.join }
    calls := columns.calls ++ primaryKey.calls ++ indexes.calls }

/-- Asks about the members of a list side by side.  A catalog that needs time is asked about all of
them before any answer is known; one that answers at once is asked about no more after a
failure. -/
def askAll {α β : Type} (catalog : Catalog) (ask : α → Asked β) : List α → Asked (List β)
  | [] => ⟨.ok [], []⟩
  | a :: rest =>
    let first := ask a
    let others := catalog.askAll ask rest
    match first.answer with
    | .ok b => ⟨others.answer.map (b :: ·), first.calls ++ others.calls⟩
    | .error error =>
      ⟨.error error, first.calls ++ if catalog.latency = 0 then [] else others.calls⟩

end Catalog

namespace Fetch

/-- How far a fetch has come. -/
inductive Progress where
  /-- the databases are asked for next -/
  | start
  /-- the tables of these databases are asked for next -/
  | databases (databases : List String)
  /-- the details of these tables are asked for next -/
  | tables (databases : List String) (listing : List (String × String))
  | done (outcome : CatalogAnswer Schema)

namespace Progress

/-- How many stages are left at most. -/
def stagesLeft : Progress → Nat
  | start => 3
  | databases _ => 2
  | tables _ _ => 1
  | done _ => 0

/-- The outcome of a fetch that has ended. -/
def outcome? : Progress → Option (CatalogAnswer Schema)
  | done outcome => some outcome
  | _ => none

/-- How far a fetch has come when something was asked for, with the questions; a failure ends it. -/
def after {α : Type} (next : α → Progress) (asked : Asked α) : Progress × List CatalogCall :=
  match asked.answer with
  | .ok a => (next a, asked.calls)
  | .error error => (done (.error error), asked.calls)

/-- The next stage: how far the fetch has come once its questions are answered, and the questions. -/
def stage (catalog : Catalog) : Progress → Progress × List CatalogCall
  | start => after databases (catalog.ask .databases)
  | databases names =>
    after (fun lists => tables names lists.flatten) (catalog.askAll catalog.askTables names)
  | tables names listing =>
    after (fun tables => done (.ok (Schema.ofParts names tables)))
      (catalog.askAll catalog.askDetails listing)
  | done outcome => (done outcome, [])

/-- How far the fetch has come once the questions of the next stage are answered. -/
def advance (catalog : Catalog) (progress : Progress) : Progress :=
  (progress.stage catalog).1

/-- The questions that the next stage asks. -/
def calls (catalog : Catalog) (progress : Progress) : List CatalogCall :=
  (progress.stage catalog).2

/-- How long the next stage takes. -/
def wait (catalog : Catalog) (progress : Progress) : Nat :=
  if (progress.calls catalog).isEmpty then 0 else catalog.latency

/-- A fetch comes no further than what was asked for takes it, or ends. -/
theorem stagesLeft_after_le {α : Type} {next : α → Progress} {count : Nat}
    (h : ∀ a, (next a).stagesLeft ≤ count) (asked : Asked α) :
    (after next asked).1.stagesLeft ≤ count := by
  unfold after
  split
  · exact h _
  · exact Nat.zero_le _

/-- Every stage brings a fetch closer to its end. -/
theorem stagesLeft_advance_lt (catalog : Catalog) (progress : Progress)
    (unfinished : progress.outcome? = none) :
    (progress.advance catalog).stagesLeft < progress.stagesLeft := by
  cases progress with
  | start =>
    rw [advance, stage]
    exact Nat.lt_succ_of_le (stagesLeft_after_le (fun _ => Nat.le_refl 2) _)
  | databases names =>
    rw [advance, stage]
    exact Nat.lt_succ_of_le (stagesLeft_after_le (fun _ => Nat.le_refl 1) _)
  | tables names listing =>
    rw [advance, stage]
    exact Nat.lt_succ_of_le (stagesLeft_after_le (fun _ => Nat.le_refl 0) _)
  | done outcome => simp [outcome?] at unfinished

/-- The rest of a fetch against one catalog: its outcome, and the questions it asks. -/
def finish (catalog : Catalog) (progress : Progress) : CatalogAnswer Schema × List CatalogCall :=
  match _unfinished : progress.outcome? with
  | some outcome => (outcome, [])
  | none =>
    let (outcome, calls) := (progress.advance catalog).finish catalog
    (outcome, progress.calls catalog ++ calls)
termination_by progress.stagesLeft
decreasing_by exact stagesLeft_advance_lt catalog progress _unfinished

end Progress

end Fetch

/-- A whole fetch: its outcome, and the questions it asks in their order. -/
def Catalog.fetch (catalog : Catalog) : CatalogAnswer Schema × List CatalogCall :=
  Fetch.Progress.start.finish catalog

end QueryAssist
