import QueryAssist.Proofs.Cache.Run

/-!
# How old a served snapshot can be

A snapshot is served as long as the age in its slot is below the timeout.  That age counts from
when the snapshot was put into the slot, and a request that goes on late can put it there a second
time.

* `Dated` — what a publication entails from then on: a snapshot of the present generation leaves
  the slot only when it has got too old.
* `fresh_iff` — **the exact condition**: along a run every snapshot served was first published less
  than the timeout ago exactly when no snapshot is published at two times (or the timeout is zero
  and nothing is ever served); and that is so exactly when no request republishes, that is, goes
  on, with a snapshot published at an earlier time, while the slot waits for a refresh.
* `freshness_lost` — a run in which a snapshot is served that was first published twice the timeout
  ago.
-/

namespace QueryAssist

namespace Cache

namespace Flow

/-! ## Publications -/

/-- In the course of some events, the snapshot of a fetch is in the slot as published at a time. -/
def Published (origin : Flow) (events : List Event) (fetch time : Nat) : Prop :=
  ∃ before, before <+: events ∧ (origin.after before).state.slot = .ready fetch time

/-- No snapshot is published at two times. -/
def PublishedOnce (origin : Flow) (events : List Event) : Prop :=
  ∀ fetch a b, origin.Published events fetch a → origin.Published events fetch b → a = b

/-- A request that begins after some events and is served from the slot gets a snapshot that was
first published less than the timeout ago. -/
def ServesFresh (origin : Flow) (events : List Event) : Prop :=
  ∀ fetch time, ((origin.after events).step .request).2 =
      some ⟨(origin.after events).requests, .snapshot fetch⟩ →
    origin.Published events fetch time → (origin.after events).now < time + origin.timeout

/-- After some events, a request goes on late: the slot waits for its generation, and gets a
snapshot that was published at an earlier time. -/
def Republishes (origin : Flow) (events : List Event) (request : Nat) : Prop :=
  ∃ ticket schema time, (origin.after events).ticket? request = some ticket ∧
    (origin.after events).outcome? ticket.fetch = some (.ok schema) ∧
    (origin.after events).state.awaits ticket.generation = true ∧
    origin.Published events ticket.fetch time ∧ time < (origin.after events).now

theorem Published.mono {origin : Flow} {before events : List Event} {fetch time : Nat}
    (h : origin.Published before fetch time) (hinit : before <+: events) :
    origin.Published events fetch time := by
  obtain ⟨first, hfirst, slot⟩ := h
  exact ⟨first, hfirst.trans hinit, slot⟩

/-- One event more publishes at most what is in the slot then. -/
theorem published_concat {origin : Flow} {before : List Event} {event : Event} {fetch time : Nat}
    (h : origin.Published (before ++ [event]) fetch time) :
    origin.Published before fetch time ∨
      (origin.after (before ++ [event])).state.slot = .ready fetch time := by
  obtain ⟨first, hfirst, slot⟩ := h
  rcases List.prefix_concat_iff.1 hfirst with rfl | hbefore
  · exact .inr slot
  · exact .inl ⟨first, hbefore, slot⟩

section

variable {flow next : Flow} {event : Event} {reply : Option Reply} {fetch time : Nat}

/-- A snapshot gets into the slot only when a request goes on that the slot waits for. -/
theorem Change.slot_ready (change : Change flow event next reply)
    (slot : next.state.slot = .ready fetch time) :
    flow.state.slot = .ready fetch time ∨
      ∃ ticket schema, event = .resume ticket.request ∧
        flow.ticket? ticket.request = some ticket ∧
        flow.outcome? ticket.fetch = some (.ok schema) ∧
        flow.state.awaits ticket.generation = true ∧ fetch = ticket.fetch ∧ time = flow.now := by
  cases change with
  | published ticket schema waits ended awaited =>
    obtain ⟨rfl, rfl⟩ := Slot.ready.inj slot
    exact .inr ⟨ticket, schema, rfl, waits, ended, awaited, rfl, rfl⟩
  | started => exact absurd slot Slot.noConfusion
  | cleared => exact absurd slot Slot.noConfusion
  | invalidated => exact absurd slot Slot.noConfusion
  | disposed => exact absurd slot Slot.noConfusion
  | _ => exact .inl slot

/-- A snapshot that is served is in the slot, and young. -/
theorem Change.slot_of_served {request : Nat}
    (change : Change flow .request next (some ⟨request, .snapshot fetch⟩)) :
    ∃ since, flow.state.slot = .ready fetch since ∧ flow.now - since < flow.timeout := by
  cases change with
  | served _ since live slot young => exact ⟨since, slot, young⟩

/-! ## What becomes of a publication -/

/-- What holds once the snapshot of a fetch was published at a time: unless the generation has
changed, the snapshot is still in the slot, or has got too old. -/
structure Dated (flow : Flow) (fetch time : Nat) : Prop where
  le_now : time ≤ flow.now
  started : (flow.generation? fetch).isSome
  kept : flow.generation? fetch = some flow.state.generation →
    (∃ since, flow.state.slot = .ready fetch since ∧ time ≤ since) ∨
      time + flow.timeout ≤ flow.now

/-- A snapshot in the slot has just been published, or was before. -/
theorem Coherent.dated (h : Coherent flow) (slot : flow.state.slot = .ready fetch time) :
    Dated flow fetch time where
  le_now := (h.slot_ready fetch time slot).2.1
  started := by simp [(h.slot_ready fetch time slot).1]
  kept := fun _ => .inl ⟨time, slot, Nat.le_refl _⟩

/-- While the slot waits, the snapshots of the present generation published before are too old. -/
theorem Dated.old (dated : Dated flow fetch time) {generation : Nat}
    (awaited : flow.state.awaits generation = true)
    (present : flow.generation? fetch = some flow.state.generation) :
    time + flow.timeout ≤ flow.now := by
  rcases dated.kept present with ⟨since, slot, -⟩ | hold
  · exact absurd awaited (by simp [State.awaits_of_ready slot])
  · exact hold

/-- Every change keeps what a publication entails. -/
theorem Dated.change (dated : Dated flow fetch time) (h : Coherent flow)
    (change : Change flow event next reply) : Dated next fetch time := by
  obtain ⟨own, hown⟩ := Option.isSome_iff_exists.1 dated.started
  refine ⟨Nat.le_trans dated.le_now change.now_le, by simp [change.generation? hown], ?_⟩
  intro present
  -- the fetch keeps its generation, so that it belongs to the next present one already now
  rw [change.generation? hown, ← hown] at present
  cases change with
  | started live idle old =>
    refine .inr ?_
    rcases dated.kept present with ⟨since, slot, hle⟩ | hold
    · have hsince : since ≤ flow.now := (h.slot_ready fetch since slot).2.1
      have hage : flow.timeout ≤ flow.now - since := old fetch since slot
      show time + flow.timeout ≤ flow.now
      omega
    · exact hold
  | published ticket schema waits ended awaited => exact .inr (dated.old awaited present)
  | cleared ticket error waits ended awaited => exact .inr (dated.old awaited present)
  | invalidated => exact absurd present (h.generation?_ne_succ fetch)
  | disposed => exact absurd present (h.generation?_ne_succ fetch)
  | advanced duration =>
    exact (dated.kept present).imp_right fun hold => Nat.le_add_right_of_le hold
  | _ => exact dated.kept present

end

/-- **What a publication entails holds at any later time.** -/
theorem Published.dated {origin : Flow} {events : List Event} {fetch time : Nat}
    (h : origin.Published events fetch time) (hcoherent : Coherent origin) :
    Dated (origin.after events) fetch time := by
  obtain ⟨before, ⟨rest, rfl⟩, slot⟩ := h
  rw [after_append]
  have hbefore := hcoherent.after before
  exact hbefore.after_induction (motive := fun next => Dated next fetch time)
    (fun h change dated => dated.change h change) (hbefore.dated slot) rest

/-! ## Publishing once -/

section

variable {origin : Flow} {events : List Event}

/-- A request that goes on with a snapshot that the slot waits for publishes it. -/
theorem after_publishing {ticket : Ticket} {schema : Schema}
    (waits : (origin.after events).ticket? ticket.request = some ticket)
    (ended : (origin.after events).outcome? ticket.fetch = some (.ok schema))
    (awaited : (origin.after events).state.awaits ticket.generation = true) :
    origin.after (events ++ [.resume ticket.request]) =
      (origin.after events).goingOn ticket.request
        (.ready ticket.fetch (origin.after events).now) := by
  rw [after_append, after_cons, after_nil, step, resume_of_ended waits ended, if_pos awaited]
  rfl

/-- A request that goes on late publishes its snapshot at a second time. -/
theorem Republishes.not_publishedOnce {request : Nat} (late : origin.Republishes events request) :
    ¬ origin.PublishedOnce (events ++ [.resume request]) := by
  obtain ⟨ticket, schema, time, waits, ended, awaited, published, hlt⟩ := late
  obtain rfl := request_of_ticket? waits
  have hafter := after_publishing waits ended awaited
  intro once
  have hsame := once ticket.fetch time _ (published.mono (List.prefix_append _ _))
    ⟨_, List.prefix_rfl, by rw [hafter]; rfl⟩
  omega

/-- Snapshots are published once as long as no request goes on late. -/
theorem PublishedOnce.concat (once : origin.PublishedOnce events) (h : Coherent origin)
    {event : Event}
    (punctual : ∀ request, event = .resume request → ¬ origin.Republishes events request) :
    origin.PublishedOnce (events ++ [event]) := by
  -- what is in the slot then agrees with everything published before
  have hnew : ∀ fetch time late, origin.Published events fetch time →
      (origin.after (events ++ [event])).state.slot = .ready fetch late → time = late := by
    intro fetch time late published slot
    rw [after_append] at slot
    rcases (change_step _ event).slot_ready slot with hold | hlate
    · exact once fetch time late published ⟨events, List.prefix_rfl, hold⟩
    · obtain ⟨ticket, schema, rfl, waits, ended, awaited, rfl, rfl⟩ := hlate
      by_contra hne
      have hlt := Nat.lt_of_le_of_ne (published.dated h).le_now hne
      exact punctual _ rfl ⟨ticket, schema, time, waits, ended, awaited, published, hlt⟩
  intro fetch a b ha hb
  rcases published_concat ha with ha | ha <;> rcases published_concat hb with hb | hb
  · exact once fetch a b ha hb
  · exact hnew fetch a b ha hb
  · exact (hnew fetch b a hb ha).symm
  · exact (Slot.ready.inj (ha.symm.trans hb)).2

/-- Snapshots are published once along a run exactly when no request goes on late. -/
theorem publishedOnce_iff (h : Coherent origin) (events : List Event) :
    origin.PublishedOnce events ↔ ∀ before request, before ++ [.resume request] <+: events →
      ¬ origin.Republishes before request := by
  constructor
  · intro once before request hinit late
    exact late.not_publishedOnce fun fetch a b ha hb =>
      once fetch a b (ha.mono hinit) (hb.mono hinit)
  · intro punctual
    refine prefix_induction (motive := fun before => origin.PublishedOnce before) ?_ ?_ events
      List.prefix_rfl
    · rintro fetch a b ⟨_, hnil, ha⟩ ⟨_, hnil', hb⟩
      rw [List.prefix_nil.1 hnil] at ha
      rw [List.prefix_nil.1 hnil'] at hb
      exact (Slot.ready.inj (ha.symm.trans hb)).2
    · intro before event hinit once
      refine once.concat h ?_
      rintro request rfl
      exact punctual before request hinit

/-! ## Serving fresh snapshots -/

/-- Without a second publication, snapshots are served fresh. -/
theorem PublishedOnce.servesFresh (once : origin.PublishedOnce events) :
    origin.ServesFresh events := by
  intro fetch time served published
  have change := (origin.after events).change_step .request
  rw [served] at change
  obtain ⟨since, slot, young⟩ := change.slot_of_served
  obtain rfl := once fetch time since published ⟨events, List.prefix_rfl, slot⟩
  rw [timeout_after] at young
  omega

/-- After a second publication, an old snapshot is served to the next request. -/
theorem Republishes.not_servesFresh {request : Nat} (late : origin.Republishes events request)
    (h : Coherent origin) (positive : 0 < origin.timeout) :
    ¬ origin.ServesFresh (events ++ [.resume request]) := by
  obtain ⟨ticket, schema, time, waits, ended, awaited, published, hlt⟩ := late
  obtain rfl := request_of_ticket? waits
  have hold : time + origin.timeout ≤ (origin.after events).now := by
    have hown := ((h.after events).waiting ticket (mem_of_ticket? waits)).2
    rw [← (State.awaits_iff.1 awaited).2] at hown
    simpa [timeout_after] using (published.dated h).old awaited hown
  have hafter := after_publishing waits ended awaited
  have hslot : (origin.after (events ++ [.resume ticket.request])).state.slot =
      .ready ticket.fetch (origin.after events).now := by rw [hafter]; rfl
  have hlater : (origin.after (events ++ [.resume ticket.request])).now =
      (origin.after events).now := by rw [hafter]; rfl
  intro fresh
  have hserved := fresh ticket.fetch time
    (by rw [step, (h.after _).request_of_young hslot (by rw [hlater, timeout_after]; omega)])
    (published.mono (List.prefix_append _ _))
  omega

end

/-- **What is served is fresh along a run exactly when no snapshot is published at two times, and
that is exactly when no request goes on late.** -/
theorem fresh_iff (timeout start : Nat) (events : List Event) :
    let origin := create timeout start
    ((∀ before, before <+: events → origin.ServesFresh before) ↔
      timeout = 0 ∨ origin.PublishedOnce events) ∧
    (origin.PublishedOnce events ↔ ∀ before request, before ++ [.resume request] <+: events →
      ¬ origin.Republishes before request) := by
  intro origin
  have h : Coherent origin := coherent_create timeout start
  refine ⟨⟨?_, ?_⟩, publishedOnce_iff h events⟩
  · intro fresh
    rcases Nat.eq_zero_or_pos timeout with hzero | positive
    · exact .inl hzero
    · refine .inr ((publishedOnce_iff h events).2 ?_)
      intro before request hinit late
      exact late.not_servesFresh h positive (fresh _ hinit)
  · rintro (hzero | once) before hbefore
    · intro fetch time served
      have change := (origin.after before).change_step .request
      rw [served] at change
      obtain ⟨since, -, young⟩ := change.slot_of_served
      rw [timeout_after, show origin.timeout = 0 from hzero] at young
      exact absurd young (Nat.not_lt_zero _)
    · exact PublishedOnce.servesFresh fun fetch a b ha hb =>
        once fetch a b (ha.mono hbefore) (hb.mono hbefore)

/-- Freshness can be lost.  Two requests wait for a fetch, and the first publishes its snapshot at
time 0.  When the snapshot is too old a third request starts a refresh; then the second goes on and
publishes the old snapshot again, at time 15.  At time 20 it is served to the fourth request. -/
theorem freshness_lost :
    let origin := create 10 0
    let events := [Event.request, .request, .settle 0 (.ok Schema.empty), .resume 0, .advance 15,
      .request, .resume 1, .advance 5]
    origin.Published events 0 0 ∧ origin.Published events 0 15 ∧
      (origin.after events).now = 20 ∧
      ((origin.after events).step .request).2 = some ⟨3, .snapshot 0⟩ :=
  ⟨⟨[.request, .request, .settle 0 (.ok Schema.empty), .resume 0], ⟨_, rfl⟩, rfl⟩,
    ⟨_, List.prefix_rfl, rfl⟩, rfl, rfl⟩

end Flow

end Cache

end QueryAssist
