import ChatBot.Event.Dispatch
import ChatBot.Schedule

/-!
# A bench for event hosts

Listeners whose parts do simple things by rule, and write down when they ran. With them one can see
what a host does with any history of changes and fires, also where the listeners themselves change
the host.
-/

namespace ChatBot.Rehearsal

/-- What a prefilter lets pass. -/
inductive Verdict where
  /-- Everything. -/
  | always
  /-- Nothing. -/
  | never
  /-- A payload with this text under a key. -/
  | textIs (key text : String)
  /-- A payload with a chat message under a key. -/
  | isMessage (key : String)
  /-- A payload that carries a chat message. -/
  | carriesMessage
  deriving DecidableEq, Repr

/-- Whether a payload passes. -/
def Verdict.passes (payload : Payload) : Verdict → Bool
  | .always => true
  | .never => false
  | .textIs key text => payload.get? key == some (.text text)
  | .isMessage key =>
    match payload.get? key with
    | some (.message _) => true
    | _ => false
  | .carriesMessage => payload.message?.isSome

/-- What a preprocessor makes of a payload. -/
inductive Adaptation where
  /-- The payload itself. -/
  | keep
  /-- The payload with a value under a key. -/
  | put (key : String) (value : Value)
  /-- The payload without a key. -/
  | drop (key : String)
  /-- The payload with a text behind the text under a key. -/
  | append (key text : String)
  deriving DecidableEq, Repr

/-- What a text is put behind where there is none. -/
def noText : String := "?"

/-- The payload that a preprocessor hands on. -/
def Adaptation.apply (payload : Payload) : Adaptation → Payload
  | .keep => payload
  | .put key value => payload.put key value
  | .drop key => payload.drop key
  | .append key text =>
    match payload.get? key with
    | some (.text before) => payload.put key (.text (before ++ text))
    | _ => payload.put key (.text (noText ++ text))

/-- What a part does, and what it changes on the host when it runs. -/
structure Role (α : Type) where
  /-- What it does. -/
  rule : α
  /-- What it changes. -/
  effect : Option (HostEdit String) := none

/-- The parts by name. Targets take some milliseconds to do nothing. -/
structure Cast where
  /-- The targets. -/
  targets : List (String × Role Nat) := []
  /-- The prefilters. -/
  prefilters : List (String × Role Verdict) := []
  /-- The preprocessors. -/
  preprocessors : List (String × Role Adaptation) := []

/-- What is written down when a part runs. -/
inductive Trace where
  /-- A target ran. -/
  | target (name : String) (payload : Payload)
  /-- A prefilter ran, with this verdict. -/
  | prefilter (name : String) (passed : Bool)
  /-- A preprocessor ran. -/
  | preprocessor (name : String)
  /-- A part changed the host, or tried to. -/
  | effect (result : Except EventError Unit)

/-- A host and what was written down. -/
structure Bench where
  /-- The host. -/
  host : Host String := {}
  /-- What was written down, the oldest first. -/
  trace : List Trace := []

/-- A target at work: the payload it was given, and the time at which it writes it down, once it has
started. -/
structure Target where
  /-- Its name. -/
  name : String
  /-- What it was given. -/
  payload : Payload
  /-- When it writes down. -/
  time : Option Nat := none

/-- A bench with targets at work. -/
abbrev BenchStage := Schedule Bench Target

namespace Bench

/-- Writes something down. -/
def write (b : Bench) (t : Trace) : Bench := { b with trace := b.trace ++ [t] }

/-- Changes the host, if that is not refused. -/
def edit (b : Bench) (e : HostEdit String) : Except EventError Unit × Bench :=
  match b.host.edit e with
  | .error e => (.error e, b)
  | .ok host => (.ok (), { b with host := host })

/-- What a part changes, with its result written down. -/
def affect (b : Bench) : Option (HostEdit String) → Bench
  | none => b
  | some e =>
    let (result, b) := b.edit e
    b.write (.effect result)

end Bench

namespace Cast

/-- A prefilter runs. -/
def judge (cast : Cast) (name : String) (payload : Payload) (b : Bench) : Bool × Bench :=
  match cast.prefilters.lookup name with
  | none => (true, b)
  | some role =>
    let passed := role.rule.passes payload
    (passed, (b.write (.prefilter name passed)).affect role.effect)

/-- A preprocessor runs. -/
def adapt (cast : Cast) (name : String) (payload : Payload) (b : Bench) : Payload × Bench :=
  match cast.preprocessors.lookup name with
  | none => (payload, b)
  | some role => (role.rule.apply payload, (b.write (.preprocessor name)).affect role.effect)

/-- What the parts do while an event is dispatched. -/
def conduct (cast : Cast) : Conduct String Bench := ⟨cast.judge, cast.adapt⟩

/-- How long a target takes. -/
def delay (cast : Cast) (name : String) : Nat := (cast.targets.lookup name).elim 0 (·.rule)

/-- One turn of a target. -/
def poll (cast : Cast) (t : Target) (s : BenchStage) : Option Target × BenchStage :=
  let time := t.time.getD (s.now + cast.delay t.name)
  if time ≤ s.now then
    let effect := (cast.targets.lookup t.name).bind (·.effect)
    (none, s.modify fun b => (b.write (.target t.name t.payload)).affect effect)
  else (some { t with time := some time }, s)

/-- What targets do. -/
def program (cast : Cast) : Program Bench Target where
  poll := cast.poll
  wakes _ t := t.time.isNone
  due := Target.time

/-- Fires an event. The answer is the tasks that were started. Without `canRun` there is nothing
to run listeners on. -/
def fire (cast : Cast) (canRun : Bool) (event : String) (payload : Payload) (s : BenchStage) :
    Except EventError (List Nat) × BenchStage :=
  match cast.conduct.fire canRun s.state.host event payload s.state with
  | (.error e, b) => (.error e, s.modify fun _ => b)
  | (.ok launches, b) =>
    let (ids, s) := s.modify (fun _ => b) |>.spawnAll
      (launches.map fun l => { name := l.target, payload := l.payload })
    (.ok ids, s)

/-- Waits until tasks have ended. -/
def join (cast : Cast) (ids : List Nat) (s : BenchStage) : BenchStage :=
  (s.await cast.program (fun s => ids.all fun id => !s.isLive id) none).2

end Cast

/-- How many targets are at work. -/
def flying (s : BenchStage) : Nat := s.ready.length + s.parked.length

end ChatBot.Rehearsal
