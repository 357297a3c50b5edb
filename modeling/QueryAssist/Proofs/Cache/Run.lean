import Mathlib.Data.List.Induction
import QueryAssist.Proofs.Cache.Change

/-!
# Runs of a cache

`Flow.after` is the flow that a sequence of events leads to, whatever their order.  This file says
what holds after every such sequence.

* `Coherent` — the invariant: how the slot, the fetches and the requests that wait fit together.
  `coherent_step` shows it kept by each event, `coherent_after` along a whole run.
* `outcome?_after` — the outcome of a fetch is final.
* `now_le_after`, `timeout_after` — the clock only goes forward, and the timeout stays.
-/

namespace QueryAssist

namespace Cache

namespace Flow

/-! ## Sequences of events -/

/-- The flow that some events lead to. -/
def after (flow : Flow) (events : List Event) : Flow :=
  (flow.run events).1

@[simp] theorem after_nil (flow : Flow) : flow.after [] = flow := rfl

@[simp] theorem after_cons (flow : Flow) (event : Event) (events : List Event) :
    flow.after (event :: events) = (flow.step event).1.after events := rfl

@[simp] theorem after_append (flow : Flow) (before events : List Event) :
    flow.after (before ++ events) = (flow.after before).after events := by
  induction before generalizing flow with
  | nil => rfl
  | cons event before ih => exact ih (flow.step event).1

theorem replies_cons (flow : Flow) (event : Event) (events : List Event) :
    (flow.run (event :: events)).2 =
      (flow.step event).2.toList ++ ((flow.step event).1.run events).2 := rfl

/-- What every change keeps, a sequence of events keeps. -/
theorem after_induction {motive : Flow → Prop}
    (change : ∀ {flow event next reply}, Change flow event next reply → motive flow → motive next)
    {flow : Flow} (start : motive flow) (events : List Event) : motive (flow.after events) := by
  induction events generalizing flow with
  | nil => exact start
  | cons event events ih => exact ih (change (flow.change_step event) start)

/-- What holds at the beginning of a sequence, and after one event more whenever it held before,
holds all along the sequence. -/
theorem prefix_induction {events : List Event} {motive : List Event → Prop} (nil : motive [])
    (snoc : ∀ before event, before ++ [event] <+: events → motive before →
      motive (before ++ [event])) :
    ∀ before, before <+: events → motive before := by
  intro before
  induction before using List.reverseRecOn with
  | nil => exact fun _ => nil
  | append_singleton before event ih =>
    intro h
    exact snoc before event h (ih ((List.prefix_append before [event]).trans h))

/-! ## Time and outcomes -/

section

variable {flow next : Flow} {event : Event} {reply : Option Reply}

theorem Change.now_le (h : Change flow event next reply) : flow.now ≤ next.now := by
  cases h with
  | advanced duration => exact Nat.le_add_right _ _
  | _ => exact Nat.le_refl _

theorem Change.timeout_eq (h : Change flow event next reply) : next.timeout = flow.timeout := by
  cases h <;> rfl

end

/-- Time does not go back. -/
theorem now_le_after (flow : Flow) (events : List Event) : flow.now ≤ (flow.after events).now :=
  after_induction (motive := fun next => flow.now ≤ next.now)
    (fun change h => Nat.le_trans h change.now_le) (Nat.le_refl _) events

/-- The timeout is that of the beginning. -/
theorem timeout_after (flow : Flow) (events : List Event) :
    (flow.after events).timeout = flow.timeout :=
  after_induction (motive := fun next => next.timeout = flow.timeout)
    (fun change h => change.timeout_eq.trans h) rfl events

/-! ## Fetches -/

/-- The generation in which a fetch was started. -/
def generation? (flow : Flow) (fetch : Nat) : Option Nat :=
  flow.attempts[fetch]?.map (·.generation)

/-- A fetch that is started comes after all others. -/
theorem attempts_starting (flow : Flow) (fetch : Nat) :
    flow.starting.attempts[fetch]? =
      if fetch = flow.attempts.length then some { generation := flow.state.generation }
      else flow.attempts[fetch]? := by
  by_cases h : fetch = flow.attempts.length
  · simp [starting, h]
  · rw [if_neg h]
    rcases Nat.lt_or_gt_of_ne h with hlt | hgt
    · exact List.getElem?_append_left hlt
    · rw [List.getElem?_eq_none (Nat.le_of_lt hgt)]
      exact List.getElem?_eq_none (by simp [starting]; omega)

/-- A fetch that runs is among the fetches, and only its outcome changes when it ends. -/
theorem attempts_ending {flow : Flow} {fetch generation : Nat}
    (running : flow.attempts[fetch]? = some { generation })
    (outcome : Except CatalogError Schema) (other : Nat) :
    (flow.ending fetch generation outcome).attempts[other]? =
      if other = fetch then some { generation, outcome := some outcome }
      else flow.attempts[other]? := by
  have hlt : fetch < flow.attempts.length := (List.getElem?_eq_some_iff.1 running).1
  by_cases h : other = fetch
  · subst h
    simp [ending, hlt]
  · simp [ending, h, List.getElem?_set_ne (Ne.symm h)]

/-- A fetch that is numbered has a number below the count of fetches. -/
theorem lt_of_generation? {flow : Flow} {fetch generation : Nat}
    (started : flow.generation? fetch = some generation) : fetch < flow.attempts.length := by
  obtain ⟨attempt, hattempt, -⟩ := Option.map_eq_some_iff.1 started
  exact (List.getElem?_eq_some_iff.1 hattempt).1

theorem lt_of_outcome? {flow : Flow} {fetch : Nat} {outcome : Except CatalogError Schema}
    (ended : flow.outcome? fetch = some outcome) : fetch < flow.attempts.length := by
  obtain ⟨attempt, hattempt, -⟩ := Option.bind_eq_some_iff.1 ended
  exact (List.getElem?_eq_some_iff.1 hattempt).1

theorem generation?_starting (flow : Flow) (fetch : Nat) :
    flow.starting.generation? fetch =
      if fetch = flow.attempts.length then some flow.state.generation
      else flow.generation? fetch := by
  rw [generation?, attempts_starting]
  split <;> rfl

theorem generation?_ending {flow : Flow} {fetch generation : Nat}
    (running : flow.attempts[fetch]? = some { generation })
    (outcome : Except CatalogError Schema) (other : Nat) :
    (flow.ending fetch generation outcome).generation? other = flow.generation? other := by
  rw [generation?, attempts_ending running]
  split
  · next h => simp [generation?, h, running]
  · rfl

section

variable {flow next : Flow} {event : Event} {reply : Option Reply}

/-- A fetch keeps its generation. -/
theorem Change.generation? (h : Change flow event next reply) {fetch generation : Nat}
    (started : flow.generation? fetch = some generation) :
    next.generation? fetch = some generation := by
  cases h with
  | started =>
    rw [generation?_starting, if_neg (Nat.ne_of_lt (lt_of_generation? started)), started]
  | settled other own result running => rw [generation?_ending running, started]
  | _ => exact started

/-- A fetch that has ended keeps its outcome. -/
theorem Change.outcome? (h : Change flow event next reply) {fetch : Nat}
    {outcome : Except CatalogError Schema} (ended : flow.outcome? fetch = some outcome) :
    next.outcome? fetch = some outcome := by
  cases h with
  | started =>
    rw [Flow.outcome?, attempts_starting, if_neg (Nat.ne_of_lt (lt_of_outcome? ended))]
    exact ended
  | settled other own result running =>
    have hne : fetch ≠ other := by
      rintro rfl
      simp [Flow.outcome?, running] at ended
    rw [Flow.outcome?, attempts_ending running, if_neg hne]
    exact ended
  | _ => exact ended

end

/-- The outcome of a fetch is final. -/
theorem outcome?_after {flow : Flow} {fetch : Nat} {outcome : Except CatalogError Schema}
    (ended : flow.outcome? fetch = some outcome) (events : List Event) :
    (flow.after events).outcome? fetch = some outcome :=
  after_induction (motive := fun next => next.outcome? fetch = some outcome)
    (fun change h => change.outcome? h) ended events

/-! ## The invariant -/

/-- How the parts of a flow fit together. -/
structure Coherent (flow : Flow) : Prop where
  /-- no fetch belongs to a generation to come -/
  generation_le : ∀ fetch generation, flow.generation? fetch = some generation →
    generation ≤ flow.state.generation
  /-- a fetch in the slot belongs to the present generation -/
  slot_fetching : ∀ generation fetch, flow.state.slot = .fetching generation fetch →
    generation = flow.state.generation ∧ flow.generation? fetch = some generation
  /-- a snapshot in the slot comes from a successful fetch of the present generation, and was not
  published in the future -/
  slot_ready : ∀ fetch since, flow.state.slot = .ready fetch since →
    flow.generation? fetch = some flow.state.generation ∧ since ≤ flow.now ∧
      ∃ schema, flow.outcome? fetch = some (.ok schema)
  /-- a request that waits has begun, and remembers the generation of its fetch -/
  waiting : ∀ ticket ∈ flow.waiting,
    ticket.request < flow.requests ∧ flow.generation? ticket.fetch = some ticket.generation
  /-- after the disposal nothing is held, and every fetch is of an older generation -/
  disposed : flow.state.disposed = true → flow.state.slot = .empty ∧
    ∀ fetch, flow.generation? fetch ≠ some flow.state.generation

/-- A cache that has not been used is coherent. -/
theorem coherent_create (timeout start : Nat) : Coherent (create timeout start) where
  generation_le := by simp [create, generation?]
  slot_fetching := by simp [create]
  slot_ready := by simp [create]
  waiting := by simp [create]
  disposed := by simp [create]

section

variable {flow next : Flow} {event : Event} {reply : Option Reply}

/-- No fetch belongs to the generation that comes next. -/
theorem Coherent.generation?_ne_succ (h : Coherent flow) (fetch : Nat) :
    flow.generation? fetch ≠ some (flow.state.generation + 1) :=
  fun hfetch => Nat.not_succ_le_self _ (h.generation_le fetch _ hfetch)

/-- A cache that holds something is not disposed of. -/
theorem Coherent.live (h : Coherent flow) (slot : flow.state.slot ≠ .empty) :
    flow.state.disposed = false := by
  cases live : flow.state.disposed with
  | false => rfl
  | true => exact absurd (h.disposed live).1 slot

/-- Whoever goes on leaves a coherent flow behind, if what is put into the slot is. -/
theorem Coherent.goingOn (h : Coherent flow) (request : Nat) {slot : Slot}
    (fetching : ∀ generation fetch, slot = .fetching generation fetch →
      generation = flow.state.generation ∧ flow.generation? fetch = some generation)
    (ready : ∀ fetch since, slot = .ready fetch since →
      flow.generation? fetch = some flow.state.generation ∧ since ≤ flow.now ∧
        ∃ schema, flow.outcome? fetch = some (.ok schema))
    (disposed : flow.state.disposed = true → slot = .empty) :
    Coherent (flow.goingOn request slot) where
  generation_le := h.generation_le
  slot_fetching := fetching
  slot_ready := ready
  waiting := fun ticket hticket => h.waiting ticket (List.mem_filter.1 hticket).1
  disposed := fun gone => ⟨disposed gone, (h.disposed gone).2⟩

/-- An emptied slot and a new generation leave a coherent flow behind. -/
theorem Coherent.dropping (h : Coherent flow) (disposed : Bool) :
    Coherent { flow with
      state := { slot := .empty, generation := flow.state.generation + 1, disposed } } where
  generation_le := fun fetch generation hfetch =>
    Nat.le_succ_of_le (h.generation_le fetch generation hfetch)
  slot_fetching := by simp
  slot_ready := by simp
  waiting := h.waiting
  disposed := fun _ => ⟨rfl, h.generation?_ne_succ⟩

/-- A request that begins without a fetch of its own leaves a coherent flow behind, with or
without a ticket. -/
theorem Coherent.beginning (h : Coherent flow) {waiting : List Ticket}
    (tickets : ∀ ticket ∈ waiting, ticket ∈ flow.waiting ∨
      ticket.request = flow.requests ∧ flow.generation? ticket.fetch = some ticket.generation) :
    Coherent { flow with requests := flow.requests + 1, waiting } where
  generation_le := h.generation_le
  slot_fetching := h.slot_fetching
  slot_ready := h.slot_ready
  waiting := by
    intro ticket hticket
    rcases tickets ticket hticket with hold | ⟨hrequest, hfetch⟩
    · exact ⟨Nat.lt_succ_of_lt (h.waiting ticket hold).1, (h.waiting ticket hold).2⟩
    · exact ⟨hrequest ▸ Nat.lt_succ_self _, hfetch⟩
  disposed := h.disposed

/-- A request that starts a fetch leaves a coherent flow behind. -/
theorem Coherent.starting (h : Coherent flow) (live : flow.state.disposed = false) :
    Coherent flow.starting where
  generation_le := by
    intro fetch generation hfetch
    rw [generation?_starting] at hfetch
    split at hfetch
    · exact Nat.le_of_eq (Option.some.inj hfetch).symm
    · exact h.generation_le fetch generation hfetch
  slot_fetching := by
    intro generation fetch hslot
    obtain ⟨rfl, rfl⟩ := Slot.fetching.inj hslot
    exact ⟨rfl, by rw [generation?_starting, if_pos rfl]⟩
  slot_ready := by
    intro fetch since hslot
    exact absurd hslot Slot.noConfusion
  waiting := by
    intro ticket hticket
    rcases List.mem_append.1 hticket with hold | hnew
    · obtain ⟨hrequest, hfetch⟩ := h.waiting ticket hold
      refine ⟨Nat.lt_succ_of_lt hrequest, ?_⟩
      rw [generation?_starting, if_neg (Nat.ne_of_lt (lt_of_generation? hfetch)), hfetch]
    · rw [List.mem_singleton.1 hnew]
      exact ⟨Nat.lt_succ_self _, by rw [generation?_starting, if_pos rfl]⟩
  disposed := by
    intro gone
    exact absurd (live.symm.trans gone) Bool.noConfusion

/-- The end of a fetch leaves a coherent flow behind. -/
theorem Coherent.ending (h : Coherent flow) {fetch generation : Nat}
    (running : flow.attempts[fetch]? = some { generation })
    (outcome : Except CatalogError Schema) : Coherent (flow.ending fetch generation outcome) := by
  have hgeneration := generation?_ending running outcome
  refine ⟨?_, ?_, ?_, ?_, ?_⟩
  · simp only [hgeneration]
    exact h.generation_le
  · simp only [hgeneration]
    exact h.slot_fetching
  · intro other since hslot
    obtain ⟨hother, hsince, schema, hschema⟩ := h.slot_ready other since hslot
    refine ⟨(hgeneration other).trans hother, hsince, schema, ?_⟩
    exact (Change.settled fetch generation outcome running).outcome? hschema
  · simp only [hgeneration]
    exact h.waiting
  · simp only [hgeneration]
    exact h.disposed

/-- **Every change keeps a flow coherent.** -/
theorem Coherent.change (h : Coherent flow) (change : Change flow event next reply) :
    Coherent next := by
  cases change with
  | idle => exact h
  | refused => exact h.beginning fun ticket hticket => .inl hticket
  | served => exact h.beginning fun ticket hticket => .inl hticket
  | joined generation fetch live slot =>
    refine h.beginning fun ticket hticket => (List.mem_append.1 hticket).imp_right fun hnew => ?_
    rw [List.mem_singleton.1 hnew]
    exact ⟨rfl, (h.slot_fetching generation fetch slot).2⟩
  | started live => exact h.starting live
  | settled fetch generation outcome running => exact h.ending running outcome
  | published ticket schema waits ended awaited =>
    obtain ⟨⟨fetch, slot⟩, present⟩ := State.awaits_iff.1 awaited
    refine h.goingOn ticket.request (by simp) ?_ ?_
    · intro other since hslot
      obtain ⟨rfl, rfl⟩ := Slot.ready.inj hslot
      have hticket := (h.waiting ticket (mem_of_ticket? waits)).2
      exact ⟨present ▸ hticket, Nat.le_refl _, schema, ended⟩
    · intro gone
      exact absurd (slot.symm.trans (h.disposed gone).1) Slot.noConfusion
  | cleared ticket error waits ended awaited =>
    exact h.goingOn ticket.request (by simp) (by simp) fun _ => rfl
  | passed ticket outcome waits ended strange =>
    exact h.goingOn ticket.request h.slot_fetching h.slot_ready fun gone => (h.disposed gone).1
  | invalidated => exact h.dropping flow.state.disposed
  | disposed => exact h.dropping true
  | advanced duration =>
    refine ⟨h.generation_le, h.slot_fetching, ?_, h.waiting, h.disposed⟩
    intro fetch since hslot
    obtain ⟨hfetch, hsince, hschema⟩ := h.slot_ready fetch since hslot
    exact ⟨hfetch, Nat.le_add_right_of_le hsince, hschema⟩

/-- A young snapshot in the slot is served. -/
theorem Coherent.request_of_young (h : Coherent flow) {fetch since : Nat}
    (slot : flow.state.slot = .ready fetch since) (young : flow.now - since < flow.timeout) :
    flow.request =
      ({ flow with requests := flow.requests + 1 }, some ⟨flow.requests, .snapshot fetch⟩) :=
  Flow.request_of_young (h.live (by simp [slot])) slot young

/-- Events keep a flow coherent. -/
theorem Coherent.after (h : Coherent flow) (events : List Event) : Coherent (flow.after events) :=
  after_induction (fun change h => h.change change) h events

/-- What every change of a coherent flow keeps, a sequence of events keeps. -/
theorem Coherent.after_induction {motive : Flow → Prop}
    (change : ∀ {flow event next reply}, Coherent flow → Change flow event next reply →
      motive flow → motive next)
    (h : Coherent flow) (start : motive flow) (events : List Event) :
    motive (flow.after events) :=
  (Flow.after_induction (motive := fun next => Coherent next ∧ motive next)
    (fun step both => ⟨both.1.change step, change both.1 step both.2⟩) ⟨h, start⟩ events).2

end

/-- **Every flow that events lead to is coherent.** -/
theorem coherent_after (timeout start : Nat) (events : List Event) :
    Coherent ((create timeout start).after events) :=
  (coherent_create timeout start).after events

end Flow

end Cache

end QueryAssist
