/-!
# Tasks on a virtual clock

Tasks take turns. A task that is polled runs until it ends or has to wait; then it is parked until
something it waits for has happened or its time has come. Tasks are polled in the order in which
they were spawned or woken, and the clock moves only when every task waits: then it jumps to the
next time that one of them waits for. Who waits for tasks from outside has a look from time to time,
and not only when every task waits.

Tasks are values of a type `τ` and share a state `σ`; what a task does is said by a `Program`. Some
of them are kept track of, so that one can ask how many have not ended.
-/

namespace ChatBot

/-- The tasks, the clock and the shared state. Times are in milliseconds. -/
structure Schedule (σ τ : Type) where
  /-- The time. -/
  now : Nat := 0
  /-- How many tasks there have been; the next one gets this number. -/
  spawned : Nat := 0
  /-- The tasks to be polled, in order. -/
  ready : List (Nat × τ) := []
  /-- The tasks that wait, in the order in which they were parked. -/
  parked : List (Nat × τ) := []
  /-- The tasks that are kept track of until they end. -/
  tracked : List Nat := []
  /-- What the tasks share. -/
  state : σ

/-- What tasks do. -/
structure Program (σ τ : Type) where
  /-- Runs a task until it has to wait; `none` is a task that has ended. -/
  poll : τ → Schedule σ τ → Option τ × Schedule σ τ
  /-- Whether what a task waits for has happened. -/
  wakes : Schedule σ τ → τ → Bool
  /-- The time at which a task stops waiting. -/
  due : τ → Option Nat

/-- The earlier of two times, either of which may never come. -/
def earlier? : Option Nat → Option Nat → Option Nat
  | some a, some b => some (min a b)
  | some a, none => some a
  | none, b => b

namespace Schedule

variable {σ τ : Type}

/-- Adds a task after all that are ready, and gives it a number. -/
def spawn (s : Schedule σ τ) (t : τ) : Nat × Schedule σ τ :=
  (s.spawned, { s with spawned := s.spawned + 1, ready := s.ready ++ [(s.spawned, t)] })

/-- Adds several tasks. -/
def spawnAll (s : Schedule σ τ) : List τ → List Nat × Schedule σ τ
  | [] => ([], s)
  | t :: ts =>
    let (id, s) := s.spawn t
    let (ids, s) := s.spawnAll ts
    (id :: ids, s)

/-- Changes the shared state. -/
def modify (s : Schedule σ τ) (f : σ → σ) : Schedule σ τ := { s with state := f s.state }

/-- Whether a task has not ended yet. -/
def isLive (s : Schedule σ τ) (id : Nat) : Bool :=
  s.ready.any (·.1 == id) || s.parked.any (·.1 == id)

/-- Keeps track of tasks. -/
def track (s : Schedule σ τ) (ids : List Nat) : Schedule σ τ :=
  { s with tracked := s.tracked ++ ids }

/-- Keeps track of a task no longer. -/
def untrack (s : Schedule σ τ) (id : Nat) : Schedule σ τ :=
  { s with tracked := s.tracked.erase id }

/-- How many of the tasks that are kept track of have not ended. -/
def outstanding (s : Schedule σ τ) : Nat := s.tracked.length

/-- Ends a task where it stands. -/
def abort (s : Schedule σ τ) (id : Nat) : Schedule σ τ :=
  { s.untrack id with
    ready := s.ready.filter (·.1 != id)
    parked := s.parked.filter (·.1 != id) }

/-- Moves the clock to a time that is not in the past. -/
def jump (s : Schedule σ τ) (time : Nat) : Schedule σ τ := { s with now := max s.now time }

/-- Whether a task may go on: what it waits for has happened, or its time has come. -/
def mayGoOn (p : Program σ τ) (s : Schedule σ τ) (t : τ) : Bool :=
  p.wakes s t || (p.due t).any (· ≤ s.now)

/-- Makes those parked tasks ready that may go on. -/
def wake (p : Program σ τ) (s : Schedule σ τ) : Schedule σ τ :=
  if s.parked.any fun t => mayGoOn p s t.2 then
    { s with
      ready := s.ready ++ s.parked.filter fun t => mayGoOn p s t.2
      parked := s.parked.filter fun t => !mayGoOn p s t.2 }
  else s

/-- Polls the first task that is ready; there may be none. -/
def step? (p : Program σ τ) (s : Schedule σ τ) : Option (Schedule σ τ) :=
  let s := s.wake p
  match s.ready with
  | [] => none
  | (id, t) :: rest =>
    match p.poll t { s with ready := rest } with
    | (none, s) => some (s.untrack id)
    | (some t, s) => some { s with parked := s.parked ++ [(id, t)] }

/-- Polls tasks until all of them wait, at most `turns` times. -/
def settleWithin (p : Program σ τ) : Nat → Schedule σ τ → Schedule σ τ
  | 0, s => s
  | turns + 1, s =>
    match s.step? p with
    | none => s
    | some s => settleWithin p turns s

/-- How many turns are taken before tasks that never all wait are left alone. -/
def patience : Nat := 1000000

/-- Polls tasks until all of them wait. -/
def settle (p : Program σ τ) (s : Schedule σ τ) : Schedule σ τ := settleWithin p patience s

/-- How many turns are taken before someone outside who waits has a look. -/
def stretch : Nat := 61

/-- Whether there is a task to be polled. -/
def isBusy (p : Program σ τ) (s : Schedule σ τ) : Bool := !(s.wake p).ready.isEmpty

/-- The next time that a parked task waits for. -/
def nextDue (p : Program σ τ) (s : Schedule σ τ) : Option Nat :=
  (s.parked.map fun t => p.due t.2).foldl earlier? none

/-- Lets time pass until `time`, with at most `turns` jumps of the clock. -/
def advanceWithin (p : Program σ τ) (time : Nat) : Nat → Schedule σ τ → Schedule σ τ
  | 0, s => s
  | turns + 1, s =>
    let s := s.settle p
    match s.nextDue p with
    | some due =>
      if due ≤ time then advanceWithin p time turns (s.jump due) else (s.jump time).settle p
    | none => (s.jump time).settle p

/-- Lets `span` milliseconds pass. -/
def advance (p : Program σ τ) (span : Nat) (s : Schedule σ τ) : Schedule σ τ :=
  advanceWithin p (s.now + span) patience s

/-- Lets time pass until `isOver` holds. The answer is whether it came to hold before the deadline;
it cannot where nothing is left to happen. -/
def awaitWithin (p : Program σ τ) (isOver : Schedule σ τ → Bool) (deadline : Option Nat) :
    Nat → Schedule σ τ → Bool × Schedule σ τ
  | 0, s => (isOver s, s)
  | turns + 1, s =>
    if isOver s then (true, s)
    else if deadline.any (· ≤ s.now) then (false, s)
    else
      let s := s.settleWithin p stretch
      if isOver s then (true, s)
      else if s.isBusy p then awaitWithin p isOver deadline turns s
      else
        match earlier? (s.nextDue p) deadline with
        | none => (false, s)
        | some time => awaitWithin p isOver deadline turns (s.jump time)

/-- Lets time pass until `isOver` holds or the deadline comes. -/
def await (p : Program σ τ) (isOver : Schedule σ τ → Bool) (deadline : Option Nat)
    (s : Schedule σ τ) : Bool × Schedule σ τ :=
  awaitWithin p isOver deadline patience s

/-- One turn for each of several tasks that are attended to and not scheduled. Those that have not
ended remain. -/
def turn (p : Program σ τ) : List τ → Schedule σ τ → List τ × Schedule σ τ
  | [], s => ([], s)
  | t :: ts, s =>
    let (t?, s) := if mayGoOn p s t then p.poll t s else (some t, s)
    let (ts, s) := turn p ts s
    (t?.toList ++ ts, s)

/-- Attends to tasks until they have ended or the deadline comes. Other tasks run in between. -/
def attendWithin (p : Program σ τ) (deadline : Option Nat) :
    Nat → List τ → Schedule σ τ → List τ × Schedule σ τ
  | 0, tasks, s => (tasks, s)
  | turns + 1, tasks, s =>
    let (tasks, s) := s.turn p tasks
    if tasks.isEmpty || deadline.any (· ≤ s.now) then (tasks, s)
    else
      let s := s.settleWithin p stretch
      if tasks.any (mayGoOn p s) || s.isBusy p then attendWithin p deadline turns tasks s
      else
        match earlier? ((tasks.map p.due).foldl earlier? deadline) (s.nextDue p) with
        | none => (tasks, s)
        | some time => attendWithin p deadline turns tasks (s.jump time)

/-- Attends to tasks until they have ended or the deadline comes; those that have not ended are
handed back. -/
def attend (p : Program σ τ) (deadline : Option Nat) (tasks : List τ) (s : Schedule σ τ) :
    List τ × Schedule σ τ :=
  attendWithin p deadline patience tasks s

end Schedule

end ChatBot
