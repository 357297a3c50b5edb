import QueryAssist.Proofs.Cache.Run

/-!
# How many fetches a cache runs at a time

While a fetch of the present generation runs, a request should join it instead of starting another.
The slot knows its fetch only by the generation, so a request that waited for an earlier fetch of
the same generation can take the slot away from the fetch that runs.

* `singleFlight_iff` — **this is the only way to lose the single flight**: along a run there is
  never more than one fetch of the present generation, joined by every request, exactly when no
  request is overtaken, that is, goes on after its own fetch while another one of its generation
  runs.
* `singleFlight_lost` — a run of seven events after which two fetches of one generation run.
-/

namespace QueryAssist

namespace Cache

namespace Flow

/-- A fetch of the present generation is under way. -/
def Running (flow : Flow) (fetch : Nat) : Prop :=
  flow.attempts[fetch]? = some { generation := flow.state.generation }

/-- At most one fetch of the present generation runs, and a request that begins now joins it. -/
structure SingleFlight (flow : Flow) : Prop where
  unique : ∀ a b, flow.Running a → flow.Running b → a = b
  joins : ∀ fetch, flow.Running fetch →
    flow.step .request = (flow.joining flow.state.generation fetch, none)

/-- A request is overtaken: its fetch has ended, and it goes on only now that another fetch of its
generation, the present one, runs. -/
def Overtaken (flow : Flow) (request : Nat) : Prop :=
  ∃ ticket fetch, flow.ticket? request = some ticket ∧ (flow.outcome? ticket.fetch).isSome ∧
    ticket.generation = flow.state.generation ∧ flow.Running fetch

/-! ## The slot and the fetch that runs -/

theorem Running.generation? {flow : Flow} {fetch : Nat} (h : flow.Running fetch) :
    flow.generation? fetch = some flow.state.generation := by
  rw [Flow.generation?, h]
  rfl

/-- A request joins a fetch exactly when the slot holds it. -/
theorem request_eq_joining_iff {flow : Flow} {generation fetch : Nat} :
    flow.request = (flow.joining generation fetch, none) ↔
      flow.state.disposed = false ∧ flow.state.slot = .fetching generation fetch := by
  constructor
  · intro h
    cases live : flow.state.disposed with
    | true => simp [request_of_disposed live] at h
    | false =>
      refine ⟨rfl, ?_⟩
      cases slot : flow.state.slot with
      | fetching own other =>
        rw [request_of_fetching live slot] at h
        have hwaiting := congrArg (·.1.waiting) h
        simpa [joining] using hwaiting
      | empty =>
        rw [request_of_empty live slot] at h
        exact absurd (Prod.mk.inj h).1 (flow.starting_ne_joining generation fetch)
      | ready other since =>
        by_cases young : flow.now - since < flow.timeout
        · simp [request_of_young live slot young] at h
        · rw [request_of_old live slot (Nat.not_lt.1 young)] at h
          exact absurd (Prod.mk.inj h).1 (flow.starting_ne_joining generation fetch)
  · rintro ⟨live, slot⟩
    exact request_of_fetching live slot

/-- The slot holds every fetch of the present generation that runs. -/
def HoldsRunning (flow : Flow) : Prop :=
  ∀ fetch, flow.Running fetch → flow.state.slot = .fetching flow.state.generation fetch

/-- The flight is single exactly when the slot holds whatever runs. -/
theorem singleFlight_iff_holdsRunning {flow : Flow} (h : Coherent flow) :
    flow.SingleFlight ↔ flow.HoldsRunning := by
  constructor
  · intro single fetch running
    exact (request_eq_joining_iff.1 (single.joins fetch running)).2
  · intro holds
    constructor
    · intro a b ha hb
      exact (Slot.fetching.inj ((holds a ha).symm.trans (holds b hb))).2
    · intro fetch running
      have slot := holds fetch running
      exact request_eq_joining_iff.2 ⟨h.live (by simp [slot]), slot⟩

/-- The slot goes on holding what runs, unless a request is overtaken. -/
theorem HoldsRunning.change {flow next : Flow} {event : Event} {reply : Option Reply}
    (holds : flow.HoldsRunning) (h : Coherent flow) (change : Change flow event next reply)
    (punctual : ∀ request, event = .resume request → ¬ flow.Overtaken request) :
    next.HoldsRunning := by
  -- nothing of the present generation runs when a request goes on that the slot waits for
  have hidle : ∀ ticket outcome, event = .resume ticket.request →
      flow.ticket? ticket.request = some ticket → flow.outcome? ticket.fetch = some outcome →
      flow.state.awaits ticket.generation = true → ∀ fetch, ¬ flow.Running fetch := by
    intro ticket outcome hevent waits ended awaited fetch running
    refine punctual ticket.request hevent ⟨ticket, fetch, waits, by simp [ended], ?_, running⟩
    exact (State.awaits_iff.1 awaited).2.symm
  cases change with
  | started live idle old =>
    intro fetch running
    rw [Running, attempts_starting] at running
    split at running
    · next heq => rw [heq]; rfl
    · exact absurd (holds fetch running) (idle _ _)
  | settled other generation outcome was =>
    intro fetch running
    rw [Running, attempts_ending was] at running
    split at running
    · simp at running
    · exact holds fetch running
  | published ticket schema waits ended awaited =>
    intro fetch running
    exact absurd running (hidle ticket _ rfl waits ended awaited fetch)
  | cleared ticket error waits ended awaited =>
    intro fetch running
    exact absurd running (hidle ticket _ rfl waits ended awaited fetch)
  | invalidated =>
    exact fun fetch running => absurd running.generation? (h.generation?_ne_succ fetch)
  | disposed =>
    exact fun fetch running => absurd running.generation? (h.generation?_ne_succ fetch)
  | _ => exact holds

/-- A request that is overtaken takes the slot away from the fetch that runs. -/
theorem Overtaken.not_holdsRunning {flow : Flow} {request : Nat} (late : flow.Overtaken request)
    (holds : flow.HoldsRunning) : ¬ (flow.step (.resume request)).1.HoldsRunning := by
  obtain ⟨ticket, fetch, waits, ended, present, running⟩ := late
  obtain ⟨outcome, ended⟩ := Option.isSome_iff_exists.1 ended
  obtain rfl := request_of_ticket? waits
  have awaited : flow.state.awaits ticket.generation = true :=
    State.awaits_iff.2 ⟨⟨fetch, present ▸ holds fetch running⟩, present.symm⟩
  intro after
  have hslot := after fetch (by rw [step, resume_of_ended waits ended]; exact running)
  rw [step, resume_of_ended waits ended, if_pos awaited] at hslot
  simp only [goingOn] at hslot
  split at hslot <;> exact absurd hslot Slot.noConfusion

/-! ## Whole runs -/

/-- **The flight is single along a run exactly when no request is overtaken.** -/
theorem singleFlight_iff (timeout start : Nat) (events : List Event) :
    (∀ before, before <+: events → ((create timeout start).after before).SingleFlight) ↔
      ∀ before request, before ++ [.resume request] <+: events →
        ¬ ((create timeout start).after before).Overtaken request := by
  have hcoherent := coherent_after timeout start
  constructor
  · intro single before request hinit late
    have hbefore := (List.prefix_append before _).trans hinit
    have holds := (singleFlight_iff_holdsRunning (hcoherent before)).1 (single before hbefore)
    refine late.not_holdsRunning holds ?_
    have hafter := (singleFlight_iff_holdsRunning (hcoherent _)).1 (single _ hinit)
    simpa using hafter
  · intro punctual before hbefore
    refine (singleFlight_iff_holdsRunning (hcoherent before)).2 ?_
    refine prefix_induction (motive := fun before =>
      ((create timeout start).after before).HoldsRunning) ?_ ?_ before hbefore
    · intro fetch running
      simp [Running, create] at running
    · intro before event hinit holds
      rw [after_append]
      refine holds.change (hcoherent before) (change_step _ event) ?_
      rintro request rfl
      exact punctual before request hinit

/-- The single flight can be lost.  Two requests wait for a fetch that fails; the first goes on, a
third request starts a fetch, and then the second goes on, too, and clears the slot: the fourth
request finds it empty and starts another fetch. -/
theorem singleFlight_lost :
    let flow := (create 10 0).after
      [.request, .request, .settle 0 (.error (.connectionFailed "refused")), .resume 0, .request,
        .resume 1, .request]
    flow.Running 1 ∧ flow.Running 2 :=
  ⟨rfl, rfl⟩

end Flow

end Cache

end QueryAssist
