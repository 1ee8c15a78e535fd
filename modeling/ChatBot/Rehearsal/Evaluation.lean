import ChatBot.Bot.Lifecycle
import ChatBot.Rehearsal.Responder

/-!
# Rehearsing evaluations

Evaluations on a host of their own, where a responder plays the commands. They share their time
limit, and some may be dropped before it.
-/

namespace ChatBot.Rehearsal

/-- The surroundings of an evaluation. -/
structure Setting where
  /-- How commands start, and how expressions are evaluated. -/
  config : Config := {}
  /-- The schema of requests; without one, the event does not exist. -/
  requests : Option Schema := some Schema.ofMessage
  /-- The schema of replies; without one, the event does not exist. -/
  replies : Option Schema := some Schema.ofMessage
  /-- Who plays the commands. -/
  responder : Responder := {}

/-- What is to be done in a rehearsal. -/
inductive Item where
  /-- A text is evaluated. -/
  | evaluate (text : String)
  /-- Time passes. -/
  | advance (span : Nat)

/-- How it came out. -/
inductive Finish where
  /-- There was nothing to evaluate. -/
  | nothing
  /-- The evaluation was dropped. -/
  | cancelled
  /-- The evaluation ended. -/
  | ended (result : Except CommandError String)

/-- What is to be seen after an item. -/
structure Report where
  /-- The requests since the item before. -/
  requests : List Message
  /-- How many evaluations there were that published a request. -/
  addresses : Nat
  /-- How many listen for replies. -/
  listeners : Nat
  /-- How many wait for the event of replies to be created. -/
  pending : Nat
  /-- How many tracked tasks have not ended. -/
  tasks : Nat

/-- A host with an event, unless there is no schema for it or it is refused. -/
def withEvent (event : CoreEvent) (schema : Option Schema) (h : Host Handler) : Host Handler :=
  schema.elim h fun s => h.afterEdit (.create event.name s)

/-- The responder's callback. -/
def responderCallback : Callback Handler := ⟨⟨Schema.ofMessage, .guest responderName⟩, none, none⟩

namespace Setting

/-- The responder and nobody else. -/
def company (g : Setting) : Company where
  guest _ payload notes := g.responder.script payload notes

/-- The stage before anything has happened. -/
def stage (g : Setting) : Stage :=
  let host := withEvent .onMessageSent g.replies (withEvent .onMessage g.requests {})
  Stage.ofBot {
    config := g.config
    host := host.afterEdit (.subscribe CoreEvent.onMessage.name responderCallback) }

/-- Attends to jobs until they end or `limit` milliseconds have passed. Those that have not ended by
then are dropped. -/
def attend (g : Setting) (jobs : List Job) (limit : Option Nat) (s : Stage) :
    List Finish × Stage :=
  let numbered := (List.range jobs.length).zip jobs
  let (left, s) := s.attend g.company.program (limit.map (s.now + ·))
    (numbered.map fun (n, j) => .job (.attendant n) j)
  let s := left.foldl Stage.drop s
  let finish (n : Nat) : Finish :=
    match s.bot.outcomes.lookup n with
    | some (.reply result) => .ended result
    | _ => .cancelled
  (numbered.map fun (n, _) => finish n, s.modify fun b => { b with outcomes := [] })

/-- The evaluation of a text for `origin`. -/
def job (g : Setting) (origin : Message) (deadline : Nat) (text : String) (s : Stage) :
    Job × Stage :=
  let (session, s) := Stage.openSession s origin deadline
  (.talking session (g.config.language.evaluate text), s)

/-- The evaluations of several texts. -/
def jobs (g : Setting) (origin : Message) (deadline : Nat) : List String → Stage → List Job × Stage
  | [], s => ([], s)
  | text :: texts, s =>
    let (j, s) := g.job origin deadline text s
    let (js, s) := g.jobs origin deadline texts s
    (j :: js, s)

/-- Evaluates several texts at once. -/
def evaluateAll (g : Setting) (origin : Message) (deadline : Nat) (limit : Option Nat)
    (texts : List String) (s : Stage) : List Finish × Stage :=
  let (js, s) := g.jobs origin deadline texts s
  let (finishes, s) := g.attend js limit s
  (finishes, s.settle g.company.program)

/-- Does what an item says. -/
def perform (g : Setting) (origin : Message) (deadline : Nat) (limit : Option Nat) (s : Stage) :
    Item → Finish × Stage
  | .evaluate text =>
    let (finishes, s) := g.evaluateAll origin deadline limit [text] s
    (finishes.headD .nothing, s)
  | .advance span => (.nothing, s.advance g.company.program span)

/-- Runs the eval command on a message. -/
def command (g : Setting) (m : Message) (s : Stage) : Finish × Stage :=
  let (finishes, s) := g.attend [.fresh .eval m] none s
  (finishes.headD .nothing, s.settle g.company.program)

end Setting

/-- The messages among notes on an event. -/
def noted (label : String) (notes : List Note) : List Message :=
  (notes.filter (·.label == label)).filterMap (·.payload.message?)

/-- What is to be seen when `seen` notes were seen before. -/
def report (seen : Nat) (s : Stage) : Report where
  requests := noted CoreEvent.onMessage.name (s.bot.notesAfter seen)
  addresses := ((noted CoreEvent.onMessage.name s.bot.journal).map (·.address)).eraseDups.length
  listeners := (s.bot.host.active CoreEvent.onMessageSent.name).length
  pending := (s.bot.host.parked CoreEvent.onMessageSent.name).length
  tasks := s.outstanding

/-- When time runs out for evaluations that start now. -/
def Setting.deadline (g : Setting) (limit : Option Nat) (s : Stage) : Nat :=
  limit.elim (deadlineAfter s.now g.config.eval.timeLimit) (s.now + ·)

/-- Does what each item says, and reports after each of them. -/
def Setting.rehearse (g : Setting) (origin : Message) (deadline : Nat) (limit : Option Nat) :
    List Item → Stage → List (Finish × Report)
  | [], _ => []
  | item :: items, s =>
    let (finish, after) := g.perform origin deadline limit s item
    (finish, report s.bot.journal.length after)
      :: g.rehearse origin deadline limit items after

end ChatBot.Rehearsal
