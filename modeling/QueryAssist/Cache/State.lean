/-!
# The state of a cache

A cache holds at most one schema snapshot, named by the number of the fetch it came from.  The
state changes in two kinds of steps that a request takes: `State.enter` when it begins, and
`State.leave` when the fetch it waited for has ended.  Other requests may take their steps in
between.

A generation number is raised whenever the cache is invalidated or disposed of.  A request that
waits remembers the generation of its fetch, and only the fetch of the present generation may
change the slot.  Generations have no bound here: that a counter of 64 bits would begin again at 0
when it is raised for the 2^64th time is left out.
-/

namespace QueryAssist

namespace Cache

/-- What a cache holds. -/
inductive Slot where
  | empty
  /-- a fetch that is under way, with the generation it began in -/
  | fetching (generation fetch : Nat)
  /-- the snapshot of a fetch, with the time it was published -/
  | ready (fetch since : Nat)
  deriving DecidableEq, Repr

/-- The state of a cache. -/
structure State where
  slot : Slot := .empty
  /-- how often the cache was invalidated or disposed of -/
  generation : Nat := 0
  disposed : Bool := false
  deriving DecidableEq, Repr

/-- What becomes of a request when it begins. -/
inductive Admission where
  /-- the cache is disposed of and serves nothing -/
  | refused
  /-- the snapshot in the slot is served at once -/
  | served (fetch : Nat)
  /-- the request waits for a fetch that is under way -/
  | joined (generation fetch : Nat)
  /-- the request starts a fetch and waits for it -/
  | started (generation fetch : Nat)
  deriving DecidableEq, Repr

namespace State

/-- A request begins at a time; `fresh` is the number of the fetch that it starts if it must.  A
snapshot is served as long as its age is below `timeout`. -/
def enter (state : State) (timeout now fresh : Nat) : Admission × State :=
  let start : Admission × State :=
    (.started state.generation fresh, { state with slot := .fetching state.generation fresh })
  if state.disposed then (.refused, state)
  else
    match state.slot with
    | .empty => start
    | .fetching generation fetch => (.joined generation fetch, state)
    | .ready fetch since => if now - since < timeout then (.served fetch, state) else start

/-- Whether a fetch of a generation is the one that the slot waits for. -/
def awaits (state : State) (generation : Nat) : Bool :=
  match state.slot with
  | .fetching own _ => own == generation && state.generation == generation
  | _ => false

/-- A request goes on at a time after the fetch it waited for, of a generation, has ended.  The
first request to do so publishes the snapshot or clears the slot, if the slot waits for that
generation.  The result tells whether the request serves the snapshot. -/
def leave (state : State) (now generation fetch : Nat) (succeeded : Bool) : Bool × State :=
  let slot :=
    if state.awaits generation then
      if succeeded then .ready fetch now else .empty
    else state.slot
  (succeeded && !state.disposed, { state with slot })

/-- The snapshot is dropped, and a fetch under way will not be published. -/
def invalidate (state : State) : State :=
  { state with slot := .empty, generation := state.generation + 1 }

/-- The cache serves nothing any more. -/
def dispose (state : State) : State :=
  { state.invalidate with disposed := true }

end State

end Cache

end QueryAssist
