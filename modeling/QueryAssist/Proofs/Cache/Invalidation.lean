import QueryAssist.Proofs.Cache.Run

/-!
# No old data after an invalidation

Fetches and requests are numbered in the order they begin.  The fetches started since a moment are
therefore those with a number not below the count of fetches at that moment, and likewise for
requests.

* `Since` — the invariant that an invalidation establishes: all fetches started before it are of
  older generations, and the requests begun after it wait for none of them.
* `Since.answer` — so these requests are answered without them.
* `no_old_data` — **no old data after an invalidation**: the requests begun after it get an empty
  schema or the outcome of a fetch started after it, and only such a fetch is ever published.
-/

namespace QueryAssist

namespace Cache

namespace Flow

/-- The first `fetches` fetches are of older generations, and no request but the first `requests`
waits for one of them. -/
structure Since (fetches requests : Nat) (flow : Flow) : Prop where
  fetches_le : fetches ≤ flow.attempts.length
  generation_lt : ∀ fetch generation, fetch < fetches → flow.generation? fetch = some generation →
    generation < flow.state.generation
  waiting : ∀ ticket ∈ flow.waiting, requests ≤ ticket.request → fetches ≤ ticket.fetch

section

variable {fetches requests : Nat} {flow next : Flow} {event : Event} {reply : Option Reply}

/-- A fetch of the present generation is none of the first ones. -/
theorem Since.le_of_present (h : Since fetches requests flow) {fetch : Nat}
    (present : flow.generation? fetch = some flow.state.generation) : fetches ≤ fetch := by
  by_contra hlt
  exact Nat.lt_irrefl _ (h.generation_lt fetch _ (Nat.lt_of_not_le hlt) present)

/-- A new generation makes all fetches old. -/
theorem since_dropping (h : Coherent flow) (disposed : Bool) :
    Since flow.attempts.length flow.requests { flow with
      state := { slot := .empty, generation := flow.state.generation + 1, disposed } } where
  fetches_le := Nat.le_refl _
  generation_lt := fun fetch generation _ hfetch =>
    Nat.lt_succ_of_le (h.generation_le fetch generation hfetch)
  waiting := fun ticket hticket hnew =>
    absurd (h.waiting ticket hticket).1 (Nat.not_lt.2 hnew)

/-- A later generation keeps the invariant. -/
theorem Since.dropping (h : Since fetches requests flow) (disposed : Bool) :
    Since fetches requests { flow with
      state := { slot := .empty, generation := flow.state.generation + 1, disposed } } where
  fetches_le := h.fetches_le
  generation_lt := fun fetch generation hlt hfetch =>
    Nat.lt_succ_of_lt (h.generation_lt fetch generation hlt hfetch)
  waiting := h.waiting

/-- A new ticket for none of the first fetches keeps the invariant. -/
theorem Since.waiting_append (h : Since fetches requests flow) {ticket : Ticket}
    (hnew : fetches ≤ ticket.fetch) :
    ∀ other ∈ flow.waiting ++ [ticket], requests ≤ other.request → fetches ≤ other.fetch := by
  intro other hother hrequest
  rcases List.mem_append.1 hother with hold | hmem
  · exact h.waiting other hold hrequest
  · rw [List.mem_singleton.1 hmem]
    exact hnew

/-- A request that goes on keeps the invariant. -/
theorem Since.goingOn (h : Since fetches requests flow) (request : Nat) (slot : Slot) :
    Since fetches requests (flow.goingOn request slot) :=
  ⟨h.fetches_le, h.generation_lt,
    fun ticket hticket => h.waiting ticket (List.mem_filter.1 hticket).1⟩

/-- Every change keeps the invariant. -/
theorem Since.change (since : Since fetches requests flow) (h : Coherent flow)
    (change : Change flow event next reply) : Since fetches requests next := by
  cases change with
  | joined generation fetch live slot =>
    obtain ⟨rfl, hfetch⟩ := h.slot_fetching generation fetch slot
    exact ⟨since.fetches_le, since.generation_lt,
      since.waiting_append (since.le_of_present hfetch)⟩
  | started live idle old =>
    have hlength : flow.attempts.length ≤ flow.starting.attempts.length := by simp [starting]
    refine ⟨Nat.le_trans since.fetches_le hlength, ?_, since.waiting_append since.fetches_le⟩
    intro fetch generation hlt hfetch
    have hne : fetch ≠ flow.attempts.length :=
      Nat.ne_of_lt (Nat.lt_of_lt_of_le hlt since.fetches_le)
    rw [generation?_starting, if_neg hne] at hfetch
    exact since.generation_lt fetch generation hlt hfetch
  | settled fetch generation outcome running =>
    refine ⟨by simpa [ending] using since.fetches_le, ?_, since.waiting⟩
    intro other own hlt hother
    rw [generation?_ending running] at hother
    exact since.generation_lt other own hlt hother
  | published ticket => exact since.goingOn ticket.request _
  | cleared ticket => exact since.goingOn ticket.request _
  | passed ticket => exact since.goingOn ticket.request _
  | invalidated => exact since.dropping flow.state.disposed
  | disposed => exact since.dropping true
  | _ => exact ⟨since.fetches_le, since.generation_lt, since.waiting⟩

/-- Events keep the invariant. -/
theorem Since.after (since : Since fetches requests flow) (h : Coherent flow)
    (events : List Event) : Since fetches requests (flow.after events) :=
  h.after_induction (fun h change since => since.change h change) since events

/-! ## Answers -/

/-- An answer without old data: it is empty or what a fetch has found that is none of the first
ones. -/
def RecentAnswer (flow : Flow) (fetches : Nat) (answer : Answer) : Prop :=
  answer = .empty ∨ ∃ fetch schema, answer = .snapshot fetch ∧ fetches ≤ fetch ∧
    flow.outcome? fetch = some (.ok schema)

/-- A request that waits for none of the first fetches is answered without old data. -/
theorem Since.answerFor (since : Since fetches requests flow) {ticket : Ticket}
    {outcome : Except CatalogError Schema} (waits : flow.ticket? ticket.request = some ticket)
    (ended : flow.outcome? ticket.fetch = some outcome) (hnew : requests ≤ ticket.request) :
    flow.RecentAnswer fetches (flow.answerFor ticket outcome) := by
  unfold Flow.answerFor
  split
  · next h =>
    cases outcome with
    | error error => simp [Except.isOk, Except.toBool] at h
    | ok schema =>
      have hfetch : fetches ≤ ticket.fetch := since.waiting ticket (mem_of_ticket? waits) hnew
      exact .inr ⟨ticket.fetch, schema, rfl, hfetch, ended⟩
  · exact .inl rfl

/-- A request that is not among the first ones is answered without old data. -/
theorem Since.answer (since : Since fetches requests flow) (h : Coherent flow) {reply : Reply}
    (change : Change flow event next (some reply)) (hnew : requests ≤ reply.request) :
    flow.RecentAnswer fetches reply.answer := by
  cases change with
  | refused => exact .inl rfl
  | served fetch since' live slot =>
    obtain ⟨present, -, schema, found⟩ := h.slot_ready fetch since' slot
    exact .inr ⟨fetch, schema, rfl, since.le_of_present present, found⟩
  | published ticket schema waits ended => exact since.answerFor waits ended hnew
  | cleared ticket error waits ended => exact since.answerFor waits ended hnew
  | passed ticket outcome waits ended => exact since.answerFor waits ended hnew

end

/-- Along a whole run, a request that is not among the first ones is answered without old data. -/
theorem Since.answers {fetches requests : Nat} {flow : Flow} (since : Since fetches requests flow)
    (h : Coherent flow) (events : List Event) :
    ∀ reply ∈ (flow.run events).2, requests ≤ reply.request →
      (flow.after events).RecentAnswer fetches reply.answer := by
  induction events generalizing flow with
  | nil =>
    intro reply hreply
    exact absurd hreply List.not_mem_nil
  | cons event events ih =>
    intro reply hreply hnew
    have change := flow.change_step event
    rw [replies_cons] at hreply
    rcases List.mem_append.1 hreply with hnow | hlater
    · rw [Option.mem_toList.1 hnow] at change
      refine (since.answer h change hnew).imp_right ?_
      rintro ⟨fetch, schema, hanswer, hfetch, found⟩
      exact ⟨fetch, schema, hanswer, hfetch, outcome?_after found (event :: events)⟩
    · exact ih (since.change h change) (h.change change) reply hlater hnew

/-- **No old data after an invalidation.**  Whatever happens after an invalidation or a disposal, a
request begun since gets an empty schema or the outcome of a fetch started since; and a snapshot in
the slot comes from a fetch started since, so that no fetch under way before is published. -/
theorem no_old_data (timeout start : Nat) (before events : List Event) {drop : Event}
    (hdrop : drop = .invalidate ∨ drop = .dispose) :
    let dropped := (create timeout start).after (before ++ [drop])
    let last := dropped.after events
    (∀ reply ∈ (dropped.run events).2, dropped.requests ≤ reply.request →
      last.RecentAnswer dropped.attempts.length reply.answer) ∧
    ∀ fetch since, last.state.slot = .ready fetch since →
      dropped.attempts.length ≤ fetch ∧ ∃ schema, last.outcome? fetch = some (.ok schema) := by
  intro dropped last
  have hcoherent : Coherent dropped := coherent_after timeout start (before ++ [drop])
  have hsince : Since dropped.attempts.length dropped.requests dropped := by
    have h := coherent_after timeout start before
    simp only [dropped, after_append]
    rcases hdrop with rfl | rfl
    · exact since_dropping h _
    · exact since_dropping h true
  refine ⟨hsince.answers hcoherent events, fun fetch since slot => ?_⟩
  obtain ⟨present, -, schema, found⟩ := (hcoherent.after events).slot_ready fetch since slot
  exact ⟨(hsince.after hcoherent events).le_of_present present, schema, found⟩

/-- A fetch is overtaken by an invalidation.  Its own request still gets what it finds, but the
request begun afterwards starts a fetch of its own, and only that one is published. -/
theorem no_old_data_after_late_fetch :
    let dropped := (create 10 0).after ([.request] ++ [.invalidate])
    let events := [.request, .settle 0 (.ok Schema.empty), .resume 0, .settle 1 (.ok Schema.empty),
      .resume 1]
    (dropped.run events).2 = [⟨0, .snapshot 0⟩, ⟨1, .snapshot 1⟩] ∧
      (dropped.after events).RecentAnswer 1 (.snapshot 1) ∧
      (dropped.after events).state.slot = .ready 1 0 ∧
      ∃ schema, (dropped.after events).outcome? 1 = some (.ok schema) := by
  intro dropped events
  have h := no_old_data 10 0 [.request] events (.inl rfl)
  exact ⟨rfl, h.1 ⟨1, .snapshot 1⟩ (by decide) (by decide), rfl, (h.2 1 0 rfl).2⟩

end Flow

end Cache

end QueryAssist
