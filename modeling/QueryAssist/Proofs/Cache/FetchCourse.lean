import QueryAssist.Cache.Connection
import QueryAssist.Proofs.Cache.Run
import QueryAssist.Proofs.Catalog.Fetch

/-!
# A fetch in the course of time

A connection takes a fetch through its stages as time passes.  If nothing else is under way and the
catalog stays the same, the fetch ends as `Catalog.fetch` says, however long the answers take.

* `Heading` — where a connection stands whose only fetch will end with a given outcome, after given
  calls.
* `heading_proceed`, `Heading.tick`, `Heading.settle` — each stage keeps it, and when no stage is
  left the fetch has ended.
* `fetch_outcome` — **the exact outcome of a fetch**.
-/

namespace QueryAssist

namespace Cache

/-! ## What a stage changes -/

namespace Flow

/-- A request that goes on changes no fetch. -/
theorem attempts_resume (flow : Flow) (request : Nat) :
    (flow.resume request).1.attempts = flow.attempts := by
  unfold resume
  split
  · rfl
  · split <;> rfl

/-- A fetch that runs can end. -/
theorem outcome?_settle {flow : Flow} {fetch generation : Nat}
    (running : flow.attempts[fetch]? = some { generation })
    (outcome : Except CatalogError Schema) :
    (flow.settle fetch outcome).outcome? fetch = some outcome := by
  have hsettle : flow.settle fetch outcome = flow.ending fetch generation outcome := by
    rw [settle, running]
    rfl
  rw [hsettle, outcome?, attempts_ending running, if_pos rfl]
  rfl

end Flow

namespace Connection

/-- The kinds of the calls that a catalog counts. -/
def counted (catalog : Catalog) (calls : List CatalogCall) : List Endpoint :=
  (calls.map (·.endpoint)).filter fun endpoint => catalog.counted.contains endpoint

theorem counted_append (catalog : Catalog) (first second : List CatalogCall) :
    counted catalog (first ++ second) = counted catalog first ++ counted catalog second := by
  rw [counted, List.map_append, List.filter_append]
  rfl

/-- A fetch that is done is recorded with its outcome. -/
theorem proceed_done (connection : Connection) (fetch : Nat) (outcome : CatalogAnswer Schema) :
    connection.proceed fetch (.done outcome) =
      { connection with flow := connection.flow.settle fetch outcome } := by
  rw [proceed]
  rfl

/-- A fetch that is not done asks the questions of its next stage, and goes on or waits. -/
theorem proceed_of_unfinished (connection : Connection) (fetch : Nat) {progress : Fetch.Progress}
    (unfinished : progress.outcome? = none) :
    connection.proceed fetch progress =
      let catalog := connection.catalog
      let asked := { connection with
        calls := connection.calls ++ counted catalog (progress.calls catalog) }
      if progress.wait catalog = 0 then asked.proceed fetch (progress.advance catalog)
      else
        { asked with
          running := connection.running ++
            [⟨fetch, connection.now + progress.wait catalog, progress.advance catalog⟩] } := by
  rw [proceed]
  split
  · next outcome h => simp [unfinished] at h
  · rfl

/-- What a fetch keeps when its end is recorded, when its questions are counted and when a stage of it
begins, it keeps on its whole way. -/
theorem proceed_induction {motive : Connection → Prop} {fetch : Nat}
    (ended : ∀ connection outcome, motive connection →
      motive { connection with flow := connection.flow.settle fetch outcome })
    (asked : ∀ connection running calls, motive connection →
      motive { connection with running, calls })
    {connection : Connection} (start : motive connection) (progress : Fetch.Progress) :
    motive (connection.proceed fetch progress) := by
  cases finished : progress.outcome? with
  | some outcome =>
    obtain rfl := Fetch.Progress.eq_done_of_outcome? finished
    rw [proceed_done]
    exact ended connection outcome start
  | none =>
    have hless := Fetch.Progress.stagesLeft_advance_lt connection.catalog progress finished
    rw [proceed_of_unfinished connection fetch finished]
    simp only
    split
    · exact proceed_induction ended asked (asked connection connection.running _ start) _
    · exact asked connection _ _ start
termination_by progress.stagesLeft

/-! ## On the way to the outcome -/

/-- A connection with one fetch at most is on the way to an outcome of it, after which the catalog
will have counted some calls. -/
inductive Heading (fetch : Nat) (outcome : CatalogAnswer Schema) (calls : List Endpoint)
    (connection : Connection) : Prop where
  | arrived (running : connection.running = [])
      (ended : connection.flow.outcome? fetch = some outcome) (called : connection.calls = calls)
  | underWay (stage : Stage) (running : connection.running = [stage]) (own : stage.fetch = fetch)
      (unended : ∃ generation, connection.flow.attempts[fetch]? = some { generation })
      (outcome_eq : (stage.next.finish connection.catalog).1 = outcome)
      (calls_eq : connection.calls ++
        counted connection.catalog (stage.next.finish connection.catalog).2 = calls)

section

variable {fetch : Nat} {outcome : CatalogAnswer Schema} {calls : List Endpoint}
variable {connection next : Connection}

/-- Where a connection stands depends on its stages, its catalog, its calls and its fetches. -/
theorem Heading.congr (h : Heading fetch outcome calls connection)
    (running : next.running = connection.running) (catalog : next.catalog = connection.catalog)
    (called : next.calls = connection.calls)
    (attempts : next.flow.attempts = connection.flow.attempts) :
    Heading fetch outcome calls next := by
  cases h with
  | arrived idle ended hcalls =>
    refine .arrived (running.trans idle) ?_ (called.trans hcalls)
    rw [Flow.outcome?, attempts]
    exact ended
  | underWay stage hstage own unended houtcome hcalls =>
    refine .underWay stage (running.trans hstage) own ?_ ?_ ?_
    · rw [attempts]
      exact unended
    · rw [catalog]
      exact houtcome
    · rw [catalog, called]
      exact hcalls

/-- Requests that go on change neither the stages nor where the connection stands. -/
theorem Heading.conclude (h : Heading fetch outcome calls connection) (other : Nat) :
    Heading fetch outcome calls (connection.conclude other) ∧
      (connection.conclude other).running = connection.running := by
  unfold Connection.conclude
  generalize (connection.flow.waiting.filter (·.fetch == other)).map (·.request) = requests
  induction requests generalizing connection with
  | nil => exact ⟨h, rfl⟩
  | cons request requests ih =>
    exact ih (h.congr rfl rfl rfl (connection.flow.attempts_resume request))

/-- A fetch that goes on while no stage runs is on the way to what is left of it, with fewer stages
to come. -/
theorem heading_proceed (connection : Connection) (progress : Fetch.Progress)
    (idle : connection.running = [])
    (unended : ∃ generation, connection.flow.attempts[fetch]? = some { generation }) :
    Heading fetch (progress.finish connection.catalog).1
        (connection.calls ++ counted connection.catalog (progress.finish connection.catalog).2)
        (connection.proceed fetch progress) ∧
      (connection.proceed fetch progress).stagesLeft ≤ progress.stagesLeft := by
  cases finished : progress.outcome? with
  | some outcome =>
    obtain ⟨generation, unended⟩ := unended
    obtain rfl := Fetch.Progress.eq_done_of_outcome? finished
    rw [proceed_done, Fetch.Progress.finish_done]
    refine ⟨.arrived idle (Flow.outcome?_settle unended outcome) ?_, ?_⟩
    · exact (List.append_nil _).symm
    · simp [stagesLeft, idle]
  | none =>
    have hless := Fetch.Progress.stagesLeft_advance_lt connection.catalog progress finished
    rw [proceed_of_unfinished connection fetch finished,
      Fetch.Progress.finish_of_unfinished finished, counted_append, ← List.append_assoc]
    simp only
    split
    · have h := heading_proceed
        { connection with
          calls := connection.calls ++
            counted connection.catalog (progress.calls connection.catalog) }
        (progress.advance connection.catalog) idle unended
      exact ⟨h.1, Nat.le_trans h.2 (Nat.le_of_lt hless)⟩
    · refine ⟨.underWay _ (by rw [idle]; rfl) rfl unended rfl rfl, ?_⟩
      simp only [stagesLeft, idle, List.nil_append, List.foldl_cons, List.foldl_nil]
      omega
termination_by progress.stagesLeft

/-- The only stage goes on once it is due. -/
theorem attend_of_due {stage : Stage} (running : connection.running = [stage])
    (due : stage.due ≤ connection.now) :
    connection.attend stage.fetch =
      { connection with running := [] }.proceed stage.fetch stage.next := by
  simp [attend, running, due]

/-- Stages left are none without a stage under way. -/
theorem stagesLeft_of_idle (idle : connection.running = []) : connection.stagesLeft = 0 := by
  rw [stagesLeft, idle]
  rfl

/-- One stage under way is left with all that come after it. -/
theorem stagesLeft_of_stage {stage : Stage} (running : connection.running = [stage]) :
    connection.stagesLeft = stage.next.stagesLeft + 1 := by
  rw [stagesLeft, running]
  simp

/-- When time passes until a stage ends, the connection stays on its way, with a stage less
left. -/
theorem Heading.tick (h : Heading fetch outcome calls connection) :
    Heading fetch outcome calls (connection.tick none) ∧
      (connection.tick none).stagesLeft ≤ connection.stagesLeft - 1 := by
  cases h with
  | arrived idle ended called =>
    have hstill : connection.tick none = connection := by
      rw [Connection.tick, nextStage?, idle]
    rw [hstill, stagesLeft_of_idle idle]
    exact ⟨.arrived idle ended called, Nat.le_refl _⟩
  | underWay stage running own unended houtcome hcalls =>
    have hend : connection.tick none =
        ((connection.setTime stage.due).attend stage.fetch).conclude stage.fetch := by
      rw [Connection.tick, nextStage?, running]
      rfl
    have hdue : stage.due ≤ (connection.setTime stage.due).now := by
      change stage.due ≤ connection.now + (stage.due - connection.now)
      omega
    subst own houtcome hcalls
    rw [hend, attend_of_due (by exact running) hdue]
    obtain ⟨hheading, hless⟩ :=
      heading_proceed { connection.setTime stage.due with running := [] } stage.next rfl unended
    obtain ⟨hconcluded, hrunning⟩ := hheading.conclude stage.fetch
    refine ⟨hconcluded, ?_⟩
    rw [stagesLeft_of_stage running, Connection.stagesLeft, hrunning]
    exact hless

/-- When all stages have ended, so has the fetch. -/
theorem Heading.settle (h : Heading fetch outcome calls connection) :
    (connection.settle none).flow.outcome? fetch = some outcome ∧
      (connection.settle none).calls = calls := by
  have hticks : ∀ count,
      Heading fetch outcome calls (Nat.repeat (Connection.tick none) count connection) ∧
      (Nat.repeat (Connection.tick none) count connection).stagesLeft ≤
        connection.stagesLeft - count := by
    intro count
    induction count with
    | zero => exact ⟨h, Nat.le_refl _⟩
    | succ count ih =>
      obtain ⟨hnext, hless⟩ := ih.1.tick
      refine ⟨hnext, Nat.le_trans hless ?_⟩
      have hbefore := ih.2
      omega
  obtain ⟨hlast, hleft⟩ := hticks connection.stagesLeft
  cases hlast with
  | arrived idle ended called => exact ⟨ended, called⟩
  | underWay stage running =>
    rw [stagesLeft_of_stage running] at hleft
    omega

/-- A request that starts a fetch takes it through the stages that need no time, and goes on if it
has ended. -/
theorem request_of_starting (starts : connection.flow.request = (connection.flow.starting, none)) :
    connection.request =
      (({ connection with
          flow := connection.flow.starting
          replies := connection.replies ++ [] }.proceed
        connection.flow.attempts.length .start).resume connection.flow.requests,
        connection.flow.requests) := by
  have hlength : connection.flow.attempts.length < connection.flow.starting.attempts.length := by
    simp [Flow.starting]
  rw [request, Flow.step, starts]
  simp [hlength]

/-- A request that starts a fetch while nothing is under way puts the connection on the way to what
the catalog says. -/
theorem heading_request (idle : connection.running = [])
    (starts : connection.flow.request = (connection.flow.starting, none)) :
    Heading connection.flow.attempts.length connection.catalog.fetch.1
      (connection.calls ++ counted connection.catalog connection.catalog.fetch.2)
      connection.request.1 := by
  rw [request_of_starting starts]
  have unended : ∃ generation, connection.flow.starting.attempts[connection.flow.attempts.length]? =
      some { generation } := ⟨connection.flow.state.generation, by simp [Flow.starting]⟩
  have h := heading_proceed
    { connection with flow := connection.flow.starting, replies := connection.replies ++ [] }
    .start idle unended
  exact h.1.congr rfl rfl rfl (Flow.attempts_resume _ _)

/-- A whole request that starts a fetch while nothing is under way. -/
theorem get_of_idle (idle : connection.running = [])
    (starts : connection.flow.request = (connection.flow.starting, none)) :
    connection.get.1.flow.outcome? connection.flow.attempts.length =
        some connection.catalog.fetch.1 ∧
      connection.get.1.calls =
        connection.calls ++ counted connection.catalog connection.catalog.fetch.2 :=
  (heading_request idle starts).settle

end

/-- **The exact outcome of a fetch.**  It fails exactly when the list of databases, the list of
tables of a database, or the columns of a table cannot be had.  Otherwise the schema has the
databases that are listed, and under a full name the table of the last entry in the listing that
has this full name, as the catalog describes it; and every question has been asked once for
everything it is about.  This is what the first request of a connection records, however long the
catalog takes. -/
theorem fetch_outcome (catalog : Catalog) :
    ((∃ error, catalog.fetch.1 = .error error) ↔ catalog.Fails) ∧
    (∀ schema, catalog.fetch.1 = .ok schema →
      (∀ name, name ∈ schema.databases.keys ↔ name ∈ catalog.databaseNames) ∧
      (∀ key table, schema.tables.find? key = some table ↔
        ∃ before entry after, catalog.listed = before ++ entry :: after ∧
          entry.1 ++ "." ++ entry.2 = key ∧ (∀ other ∈ after, other.1 ++ "." ++ other.2 ≠ key) ∧
          catalog.Describes entry table) ∧
      schema.functions = [] ∧ schema.keywords = [] ∧
      catalog.fetch.2 = catalog.completeCalls) ∧
    ∀ id timeout start, let ended := (create id catalog timeout start).get.1
      ended.flow.outcome? 0 = some catalog.fetch.1 ∧
        ended.calls = counted catalog catalog.fetch.2 := by
  refine ⟨Catalog.fetch_fails_iff, ?_, ?_⟩
  · intro schema h
    obtain ⟨complete, hschema⟩ := Catalog.fetch_of_ok h
    refine ⟨?_, fun key table => Catalog.find?_of_fetch h, ?_, ?_, ?_⟩
    · rw [hschema]
      exact fun name => Schema.mem_databases_ofParts
    · rw [hschema]
      rfl
    · rw [hschema]
      rfl
    · rw [Catalog.fetch_of_not_fails complete]
  · intro id timeout start ended
    have idle : (create id catalog timeout start).running = [] := rfl
    exact get_of_idle idle rfl

end Connection

end Cache

end QueryAssist
