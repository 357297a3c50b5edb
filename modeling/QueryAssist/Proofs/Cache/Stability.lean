import QueryAssist.Cache.Connection
import QueryAssist.Proofs.Cache.Run

/-!
# How long a published snapshot stays

* `Change.keeps_young` — no change but an invalidation or a disposal touches a snapshot in the slot
  that is young, and no fetch is started beside it.
* `published_stays` — **a published snapshot is served for its whole window**: until its age
  reaches the timeout, or the cache is invalidated or disposed of, every request gets that very
  snapshot at once and asks the catalog nothing.
-/

namespace QueryAssist

namespace Cache

namespace Flow

section

variable {flow next : Flow} {event : Event} {reply : Option Reply} {fetch since : Nat}

/-- A snapshot in the slot stays there while it is young, whoever goes on and whatever ends, and no
fetch is started. -/
theorem Change.keeps_young (change : Change flow event next reply)
    (slot : flow.state.slot = .ready fetch since) (young : flow.now - since < flow.timeout)
    (hevent : event ≠ .invalidate ∧ event ≠ .dispose) :
    next.state.slot = .ready fetch since ∧ next.attempts.length = flow.attempts.length := by
  -- whoever goes on finds that the slot waits for nobody
  have hidle := State.awaits_of_ready slot
  cases change with
  | started live idle old => exact absurd young (Nat.not_lt.2 (old fetch since slot))
  | settled other generation outcome running => exact ⟨slot, List.length_set⟩
  | published ticket schema waits ended awaited => simp [hidle] at awaited
  | cleared ticket error waits ended awaited => simp [hidle] at awaited
  | invalidated => exact absurd rfl hevent.1
  | disposed => exact absurd rfl hevent.2
  | _ => exact ⟨slot, rfl⟩

end

/-- A snapshot in the slot stays there for its whole window. -/
theorem slot_ready_after {flow : Flow} {fetch since : Nat} {events : List Event}
    (h : Coherent flow) (slot : flow.state.slot = .ready fetch since)
    (hevents : ∀ event ∈ events, event ≠ .invalidate ∧ event ≠ .dispose)
    (young : (flow.after events).now < since + flow.timeout) :
    (flow.after events).state.slot = .ready fetch since ∧
      (flow.after events).attempts.length = flow.attempts.length := by
  induction events generalizing flow with
  | nil => exact ⟨slot, rfl⟩
  | cons event events ih =>
    have change := flow.change_step event
    have hsince : since ≤ flow.now := (h.slot_ready fetch since slot).2.1
    have hnow : flow.now ≤ (flow.after (event :: events)).now := flow.now_le_after _
    obtain ⟨hslot, hlength⟩ := change.keeps_young slot (by omega)
      (hevents event List.mem_cons_self)
    rw [← change.timeout_eq] at young
    obtain ⟨hlast, hlasts⟩ := ih (h.change change) hslot
      (fun other hother => hevents other (List.mem_cons_of_mem _ hother)) young
    exact ⟨hlast, hlasts.trans hlength⟩

end Flow

/-- A request that is served at once has nothing asked of the catalog. -/
theorem Connection.request_of_served {connection : Connection} {flow : Flow} {reply : Reply}
    (served : connection.flow.request = (flow, some reply))
    (hlength : flow.attempts.length = connection.flow.attempts.length) :
    connection.request =
      ({ connection with flow, replies := connection.replies ++ [⟨reply, flow.now⟩] },
        connection.flow.requests) := by
  simp [Connection.request, Flow.step, served, hlength]

namespace Flow

/-- **A published snapshot is served for its whole window.**  Let the snapshot of a fetch be in the
slot, as published at a time.  As long as its age is below the timeout and the cache is neither
invalidated nor disposed of, whatever else happens, it stays in the slot, no fetch is started, and
a request that begins gets it at once; the catalog of a connection is not asked anything. -/
theorem published_stays (timeout start : Nat) (before events : List Event) (fetch since : Nat)
    (slot : ((create timeout start).after before).state.slot = .ready fetch since)
    (hevents : ∀ event ∈ events, event ≠ .invalidate ∧ event ≠ .dispose)
    (young : ((create timeout start).after (before ++ events)).now < since + timeout) :
    let published := (create timeout start).after before
    let flow := (create timeout start).after (before ++ events)
    flow.state.slot = .ready fetch since ∧
      flow.attempts.length = published.attempts.length ∧
      flow.step .request =
        ({ flow with requests := flow.requests + 1 }, some ⟨flow.requests, .snapshot fetch⟩) ∧
      ∀ connection : Connection, connection.flow = flow →
        connection.request.1.calls = connection.calls ∧
          connection.request.1.running = connection.running := by
  intro published flow
  have hpublished : Coherent published := coherent_after timeout start before
  have hflow : flow = published.after events := after_append _ before events
  have hcoherent : Coherent flow := hflow ▸ hpublished.after events
  have htimeout : published.timeout = timeout := timeout_after _ before
  obtain ⟨hslot, hlength⟩ : flow.state.slot = .ready fetch since ∧
      flow.attempts.length = published.attempts.length := by
    rw [hflow]
    exact slot_ready_after hpublished slot hevents (by rw [← hflow, htimeout]; exact young)
  have hyoung : flow.now - since < flow.timeout := by
    have hsame : flow.timeout = timeout := timeout_after _ (before ++ events)
    have hend : flow.now < since + timeout := young
    have hsince : since ≤ flow.now := (hcoherent.slot_ready fetch since hslot).2.1
    omega
  have hserved := hcoherent.request_of_young hslot hyoung
  refine ⟨hslot, hlength, hserved, ?_⟩
  intro connection hconnection
  rw [Connection.request_of_served (by rw [hconnection]; exact hserved) (by rw [hconnection])]
  exact ⟨rfl, rfl⟩

/-- A late failure cannot evict a snapshot.  Two requests wait for a fetch when the cache is
invalidated, and a third publishes the snapshot of another fetch.  While that is young the first
fetch fails and both its requests go on; still the snapshot is served to the next request. -/
theorem published_stays_despite_late_failure :
    let before := [Event.request, .request, .invalidate, .request, .settle 1 (.ok Schema.empty),
      .resume 2]
    let events := [Event.settle 0 (.error (.connectionFailed "refused")), .resume 0, .advance 5,
      .resume 1]
    let flow := (create 10 0).after (before ++ events)
    ((create 10 0).after before).state.slot = .ready 1 0 ∧
      (∀ event ∈ events, event ≠ .invalidate ∧ event ≠ .dispose) ∧ flow.now < 0 + 10 ∧
      flow.step .request =
        ({ flow with requests := flow.requests + 1 }, some ⟨flow.requests, .snapshot 1⟩) := by
  intro before events flow
  have hevents : ∀ event ∈ events, event ≠ .invalidate ∧ event ≠ .dispose := by simp [events]
  have young : flow.now < 0 + 10 := by decide
  exact ⟨rfl, hevents, young, (published_stays 10 0 before events 1 0 rfl hevents young).2.2.1⟩

end Flow

end Cache

end QueryAssist
