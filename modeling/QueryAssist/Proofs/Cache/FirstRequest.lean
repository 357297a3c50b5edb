import QueryAssist.Proofs.Cache.FetchCourse

/-!
# The first request of a connection

The first request of a connection starts the first fetch, and goes on when this has ended.  So what
it gets is what the catalog says: the schema, or an empty one if the fetch fails.

* `Attended` — how the first request stands: it waits for its fetch, or it has been answered.
* `attended_resume`, `Attended.tick` — the request goes on as soon as its fetch has ended.
* `getSchema_create` — **what the first request returns.**
-/

namespace QueryAssist

namespace Cache

/-- The end of a fetch changes neither the state of the cache nor who waits. -/
theorem Flow.settle_keeps (flow : Flow) (fetch : Nat) (outcome : Except CatalogError Schema) :
    (flow.settle fetch outcome).state = flow.state ∧
      (flow.settle fetch outcome).waiting = flow.waiting := by
  unfold settle
  split <;> exact ⟨rfl, rfl⟩

namespace Connection

/-- A fetch that goes on changes neither the state of the cache, nor who waits, nor what has been
answered. -/
theorem proceed_keeps (connection : Connection) (fetch : Nat) (progress : Fetch.Progress) :
    (connection.proceed fetch progress).flow.state = connection.flow.state ∧
      (connection.proceed fetch progress).flow.waiting = connection.flow.waiting ∧
      (connection.proceed fetch progress).replies = connection.replies := by
  refine proceed_induction (motive := fun next =>
    next.flow.state = connection.flow.state ∧ next.flow.waiting = connection.flow.waiting ∧
      next.replies = connection.replies) ?_ ?_ ⟨rfl, rfl, rfl⟩ progress
  · intro next outcome ⟨hstate, hwaiting, hreplies⟩
    obtain ⟨hstate', hwaiting'⟩ := next.flow.settle_keeps fetch outcome
    exact ⟨hstate'.trans hstate, hwaiting'.trans hwaiting, hreplies⟩
  · exact fun next running calls h => h

/-- What a request gets from a fetch that has ended, while the cache is in use. -/
def answerOf (fetch : Nat) (outcome : Except CatalogError Schema) : Answer :=
  if outcome.isOk then .snapshot fetch else .empty

/-- That stands for the schema of the fetch, or for an empty one if the fetch failed. -/
theorem schemaOf_answerOf {flow : Flow} {fetch : Nat} {outcome : Except CatalogError Schema}
    (ended : flow.outcome? fetch = some outcome) :
    flow.schemaOf (answerOf fetch outcome) = outcome.toOption.getD Schema.empty := by
  cases outcome with
  | error error => rfl
  | ok schema =>
    change flow.schemaOf (.snapshot fetch) = schema
    rw [Flow.schemaOf, ended]

/-- The only request of a connection waits for its fetch, which has not ended, or it has got what
this has brought. -/
inductive Attended (request fetch : Nat) (connection : Connection) : Prop where
  | waits (generation : Nat) (live : connection.flow.state.disposed = false)
      (waiting : connection.flow.waiting = [⟨request, generation, fetch⟩])
      (silent : connection.replies = []) (unended : connection.flow.outcome? fetch = none)
  | answered (outcome : Except CatalogError Schema) (time : Nat)
      (ended : connection.flow.outcome? fetch = some outcome)
      (replied : connection.replies = [⟨⟨request, answerOf fetch outcome⟩, time⟩])

section

variable {request fetch : Nat} {connection : Connection}

/-- The only request that waits goes on if its fetch has ended. -/
theorem attended_resume {generation : Nat} (live : connection.flow.state.disposed = false)
    (waiting : connection.flow.waiting = [⟨request, generation, fetch⟩])
    (silent : connection.replies = []) : Attended request fetch (connection.resume request) := by
  have hticket : connection.flow.ticket? request = some ⟨request, generation, fetch⟩ := by
    simp [Flow.ticket?, waiting]
  cases ended : connection.flow.outcome? fetch with
  | none =>
    have hidle : connection.flow.resume request = (connection.flow, none) := by
      simp [Flow.resume, hticket, ended]
    have hstill : connection.resume request = connection := by
      simp [Connection.resume, Flow.step, hidle]
    rw [hstill]
    exact .waits generation live waiting silent ended
  | some outcome =>
    have hresume := @Flow.resume_of_ended _ ⟨request, generation, fetch⟩ _ hticket ended
    have hanswer : connection.flow.answerFor ⟨request, generation, fetch⟩ outcome =
        answerOf fetch outcome := by
      simp [Flow.answerFor, answerOf, live]
    refine .answered outcome connection.flow.now ?_ ?_
    · rw [Connection.resume, Flow.step, hresume]
      exact ended
    · rw [Connection.resume, Flow.step, hresume, hanswer, silent]
      rfl

/-- When time passes until a stage ends, the request still waits, or it is answered. -/
theorem Attended.tick {outcome : CatalogAnswer Schema} {calls : List Endpoint}
    (h : Attended request fetch connection) (heading : Heading fetch outcome calls connection) :
    Attended request fetch (connection.tick none) := by
  cases heading with
  | arrived idle ended called =>
    have hstill : connection.tick none = connection := by
      rw [Connection.tick, nextStage?, idle]
    rw [hstill]
    exact h
  | underWay stage running own unended houtcome hcalls =>
    have hunended : connection.flow.outcome? fetch = none := by
      obtain ⟨generation, hattempt⟩ := unended
      rw [Flow.outcome?, hattempt]
      rfl
    cases h with
    | answered result time ended replied =>
      exact absurd (ended.symm.trans hunended) (Option.some_ne_none _)
    | waits generation live waiting silent _ =>
      have hend : connection.tick none =
          ((connection.setTime stage.due).attend stage.fetch).conclude stage.fetch := by
        rw [Connection.tick, nextStage?, running]
        rfl
      have hdue : stage.due ≤ (connection.setTime stage.due).now := by
        change stage.due ≤ connection.now + (stage.due - connection.now)
        omega
      rw [hend, attend_of_due (by exact running) hdue, own]
      obtain ⟨hstate, hwaiting, hreplies⟩ :=
        proceed_keeps { connection.setTime stage.due with running := [] } fetch stage.next
      generalize Connection.proceed _ _ _ = next at hstate hwaiting hreplies
      have hnext : next.flow.waiting = [⟨request, generation, fetch⟩] := hwaiting.trans waiting
      have hconclude : next.conclude fetch = next.resume request := by
        simp [Connection.conclude, hnext]
      rw [hconclude]
      exact attended_resume ((congrArg State.disposed hstate).trans live) hnext
        (hreplies.trans silent)

/-- When all stages have ended, the request has got what the catalog says. -/
theorem Attended.settle {outcome : CatalogAnswer Schema} {calls : List Endpoint}
    (h : Attended request fetch connection) (heading : Heading fetch outcome calls connection) :
    ∃ time, (connection.settle none).replies = [⟨⟨request, answerOf fetch outcome⟩, time⟩] := by
  have hticks : ∀ count,
      Heading fetch outcome calls (Nat.repeat (Connection.tick none) count connection) ∧
        Attended request fetch (Nat.repeat (Connection.tick none) count connection) := by
    intro count
    induction count with
    | zero => exact ⟨heading, h⟩
    | succ count ih => exact ⟨ih.1.tick.1, ih.2.tick ih.1⟩
  have hended := heading.settle.1
  cases (hticks connection.stagesLeft).2 with
  | waits generation live waiting silent unended => exact nomatch hended.symm.trans unended
  | answered result time ended replied =>
    obtain rfl : outcome = result := Option.some.inj (hended.symm.trans ended)
    exact ⟨time, replied⟩

end

/-- **What the first request of a connection returns**: the schema that the catalog says, or an empty
one if the fetch fails, however long the catalog takes. -/
theorem getSchema_create (id : String) (catalog : Catalog) (timeout start : Nat) :
    (create id catalog timeout start).getSchema.2 =
      catalog.fetch.1.toOption.getD Schema.empty := by
  have starts : (create id catalog timeout start).flow.request =
      ((create id catalog timeout start).flow.starting, none) := rfl
  have heading : Heading 0 catalog.fetch.1 (counted catalog catalog.fetch.2)
      (create id catalog timeout start).request.1 := heading_request rfl starts
  have attended : Attended 0 0 (create id catalog timeout start).request.1 := by
    rw [request_of_starting starts]
    obtain ⟨hstate, hwaiting, hreplies⟩ := proceed_keeps
      { create id catalog timeout start with
        flow := (create id catalog timeout start).flow.starting
        replies := (create id catalog timeout start).replies ++ [] }
      (create id catalog timeout start).flow.attempts.length .start
    exact attended_resume (congrArg State.disposed hstate) hwaiting hreplies
  obtain ⟨time, hreplies⟩ := attended.settle heading
  have hended := heading.settle.1
  have hnumber : (create id catalog timeout start).request.2 = 0 := by
    rw [request_of_starting starts]
    rfl
  have hanswer : (create id catalog timeout start).get.2 = answerOf 0 catalog.fetch.1 := by
    rw [get]
    simp only [hnumber]
    rw [answer, reply?, hreplies]
    rfl
  rw [getSchema]
  simp only [hanswer]
  exact schemaOf_answerOf hended

end Connection

end Cache

end QueryAssist
