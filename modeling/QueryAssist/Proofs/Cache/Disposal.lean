import QueryAssist.Proofs.Cache.Run

/-!
# A cache after its disposal

Nothing brings a cache back that has been disposed of: not the requests that were waiting, however
their fetches end, and not an invalidation that comes later.

* `Gone` — what the disposal leaves behind: the cache serves nothing, and its fetches are all that
  it will ever have.  Every change keeps it.
* `Gone.answer` — whoever is answered from then on gets an empty schema.
* `disposal_final` — **the disposal is final**, along every run.
-/

namespace QueryAssist

namespace Cache

namespace Flow

/-- A cache that is disposed of, after a number of fetches. -/
structure Gone (fetches : Nat) (flow : Flow) : Prop where
  disposed : flow.state.disposed = true
  length_eq : flow.attempts.length = fetches

section

variable {fetches : Nat} {flow next : Flow} {event : Event} {reply : Option Reply}

/-- A disposal leaves a cache behind that is gone, with the fetches it had. -/
theorem gone_after_dispose (flow : Flow) (before : List Event) :
    Gone (flow.after before).attempts.length (flow.after (before ++ [.dispose])) := by
  rw [after_append]
  exact ⟨rfl, rfl⟩

/-- A cache that is gone is not live. -/
theorem Gone.not_live (gone : Gone fetches flow) : flow.state.disposed ≠ false := by
  rw [gone.disposed]
  exact Bool.noConfusion

/-- Every change keeps a cache gone, and none starts a fetch. -/
theorem Gone.change (gone : Gone fetches flow) (change : Change flow event next reply) :
    Gone fetches next := by
  cases change with
  | started live => exact absurd live gone.not_live
  | settled fetch generation outcome running =>
    refine ⟨gone.disposed, ?_⟩
    rw [ending, List.length_set]
    exact gone.length_eq
  | disposed => exact ⟨rfl, gone.length_eq⟩
  | _ => exact ⟨gone.disposed, gone.length_eq⟩

/-- Events keep a cache gone. -/
theorem Gone.after (gone : Gone fetches flow) (events : List Event) :
    Gone fetches (flow.after events) :=
  after_induction (fun change gone => gone.change change) gone events

/-! ## Answers -/

/-- A request that goes on gets nothing of what its fetch has found. -/
theorem Gone.answerFor (gone : Gone fetches flow) (ticket : Ticket)
    (outcome : Except CatalogError Schema) : flow.answerFor ticket outcome = .empty := by
  simp [Flow.answerFor, gone.disposed]

/-- Whoever is answered gets an empty schema. -/
theorem Gone.answer (gone : Gone fetches flow) {reply : Reply}
    (change : Change flow event next (some reply)) : reply.answer = .empty := by
  cases change with
  | refused => rfl
  | served fetch since live => exact absurd live gone.not_live
  | published ticket schema => exact gone.answerFor ticket (.ok schema)
  | cleared ticket error => exact gone.answerFor ticket (.error error)
  | passed ticket outcome => exact gone.answerFor ticket outcome

/-- Along a whole run, whoever is answered gets an empty schema. -/
theorem Gone.answers (gone : Gone fetches flow) (events : List Event) :
    ∀ reply ∈ (flow.run events).2, reply.answer = .empty := by
  induction events generalizing flow with
  | nil =>
    intro reply hreply
    exact absurd hreply List.not_mem_nil
  | cons event events ih =>
    intro reply hreply
    have change := flow.change_step event
    rw [replies_cons] at hreply
    rcases List.mem_append.1 hreply with hnow | hlater
    · rw [Option.mem_toList.1 hnow] at change
      exact gone.answer change
    · exact ih (gone.change change) reply hlater

/-- A request that waits is answered as soon as its fetch has ended, however it has. -/
theorem Gone.resume (gone : Gone fetches flow) {ticket : Ticket}
    {outcome : Except CatalogError Schema} (waits : flow.ticket? ticket.request = some ticket)
    (ended : flow.outcome? ticket.fetch = some outcome) :
    (flow.step (.resume ticket.request)).2 = some ⟨ticket.request, .empty⟩ := by
  rw [step, resume_of_ended waits ended, gone.answerFor]

end

/-- **The disposal is final.**  Whatever happened before and whatever happens since, a cache that
has been disposed of stays so, its slot stays empty, and no fetch is started any more.  All requests
answered since get an empty schema, those that were waiting included: one that begins is answered at
once, and one that waits as soon as its fetch has ended, in success or in failure. -/
theorem disposal_final (timeout start : Nat) (before events : List Event) :
    let gone := (create timeout start).after (before ++ [.dispose])
    let last := gone.after events
    last.state.disposed = true ∧ last.state.slot = .empty ∧
      last.attempts.length = gone.attempts.length ∧
      (∀ reply ∈ (gone.run events).2, reply.answer = .empty) ∧
      last.step .request =
        ({ last with requests := last.requests + 1 }, some ⟨last.requests, .empty⟩) ∧
      ∀ ticket outcome, last.ticket? ticket.request = some ticket →
        last.outcome? ticket.fetch = some outcome →
        (last.step (.resume ticket.request)).2 = some ⟨ticket.request, .empty⟩ := by
  intro gone last
  have hgone := gone_after_dispose (create timeout start) before
  have hlast := hgone.after events
  have hcoherent : Coherent last :=
    (coherent_after timeout start (before ++ [.dispose])).after events
  have hlength : last.attempts.length = gone.attempts.length :=
    hlast.length_eq.trans hgone.length_eq.symm
  exact ⟨hlast.disposed, (hcoherent.disposed hlast.disposed).1, hlength, hgone.answers events,
    request_of_disposed hlast.disposed, fun ticket outcome waits ended => hlast.resume waits ended⟩

/-- A request waits when the cache is disposed of, and then its fetch succeeds: the request still
gets an empty schema. -/
theorem disposal_final_for_waiting :
    let last := ((create 10 0).after ([.request] ++ [.dispose])).after
      [.settle 0 (.ok { functions := ["NOW"] })]
    last.ticket? 0 = some ⟨0, 0, 0⟩ ∧ last.outcome? 0 = some (.ok { functions := ["NOW"] }) ∧
      (last.step (.resume 0)).2 = some ⟨0, .empty⟩ := by
  intro last
  have h := disposal_final 10 0 [.request] [.settle 0 (.ok { functions := ["NOW"] })]
  exact ⟨rfl, rfl, h.2.2.2.2.2 ⟨0, 0, 0⟩ (.ok { functions := ["NOW"] }) rfl rfl⟩

end Flow

end Cache

end QueryAssist
