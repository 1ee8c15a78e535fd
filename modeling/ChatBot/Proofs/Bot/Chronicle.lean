import ChatBot.Proofs.Bot.Roster
import ChatBot.Proofs.Evaluation.Ensemble

/-!
# What happens in a bot

A bot at work, with everything that can get in between: tasks take turns in any order and are
interrupted in the middle of one, messages come in and are queued, senders come and go, commands are
added and removed, and others fire what they like.  The steps are made of what the bot runs, and
they are smaller than its turns: one message out of the outbox, one step of an evaluation.

A chronicle tells what happened, and why.  Every task is put down to the accepted message that led
to it, if there is one: the tasks that a task starts have the same cause.

* `Errand.Proceeds` is what a task does next, `Chronicle.Step` what anybody does next, and
  `Chronicle.Run` reaches the states that steps lead to.
-/

namespace ChatBot

/-! ### Tasks -/

/-- A task, which may be in the middle of a turn. -/
inductive Errand where
  /-- Between two turns, or with a whole turn to come. -/
  | activity (activity : Activity)
  /-- Evaluates. -/
  | evaluation (recipient : Recipient) (session : Session) (phase : Phase)
  /-- Has a result that is still to be reported. -/
  | result (recipient : Recipient) (result : Except CommandError String)

/-- Where an activity stands. -/
def Errand.ofActivity : Activity → Errand
  | .job recipient (.talking session dialogue) => .evaluation recipient session (.talking dialogue)
  | .job recipient (.asking session listener command resume) =>
    .evaluation recipient session (.waiting listener command resume)
  | a => .activity a

/-- The tasks that are between two turns. -/
def Stage.scheduled (s : Stage) : List (Nat × Errand) :=
  (s.ready ++ s.parked).map fun t => (t.1, Errand.ofActivity t.2)

/-- Where a job stands after a turn. -/
def Errand.ofTurn (recipient : Recipient) : Turn → Errand
  | .waits job => .ofActivity (.job recipient job)
  | .ends answer => .result recipient answer

/-- What is worth remembering about a run. -/
inductive Chronicle.Deed where
  /-- The command `name` was started on a request. -/
  | ran (name : String) (request : Message)
  /-- An evaluation began, with its own address. -/
  | began (address : CorrelationId)
  /-- An evaluation published a command. -/
  | published (request : Message)
  /-- A message was put into the outbox, where it stays unless the receiving end is gone. -/
  | posted (message : Message)
  /-- A message was taken out of the outbox.  If it was given to the transport, `taken` says
  whether the transport took it. -/
  | dequeued (message : Message) (taken : Bool)
  /-- A message was announced.  If the announcement was refused, nobody heard it. -/
  | announced (message : Message) (heard : Bool)

open Chronicle (Deed)

/-- What a step of a task leads to: where the task stands unless it has ended, and what there is to
remember. -/
structure Stride where
  next : Option Errand
  stage : Stage
  deeds : List Deed

/-- A message is announced.  The event may not exist, or have other parameters. -/
inductive Stage.Announces (s : Stage) (m : Message) : Stage → Deed → Prop where
  | heard {s' : Stage} (hf : s.fireTracked .onMessageSent (Payload.ofMessage m) = .ok s') :
      Announces s m s' (.announced m true)
  | unheard {e : EventError} (hf : s.fireTracked .onMessageSent (Payload.ofMessage m) = .error e) :
      Announces s m s (.announced m false)

/-- The outbox without its first message. -/
def Stage.withQueue (s : Stage) (rest : List Message) : Stage :=
  s.withOutbox fun o => { o with queue := rest }

/-- What a sender does next. -/
inductive SenderState.Proceeds (s : Stage) (number : Option Nat) : SenderState → Stride → Prop where
  | refuse (hr : s.bot.outbox.receiver ≠ .free) :
      Proceeds s number .fresh ⟨none, s.endSender number (.error .senderRunning), []⟩
  | take (hr : s.bot.outbox.receiver = .free) :
      Proceeds s number .fresh ⟨some (.activity (.sender number (.listening s.bot.outbox.stops))),
        s.withOutbox fun o => { o with receiver := .taken }, []⟩
  | stop {since : Nat} (hs : s.isStopped since = true) :
      Proceeds s number (.listening since) ⟨none, s.releaseOutbox number, []⟩
  | discard {since : Nat} {m : Message} {rest : List Message}
      (hq : s.bot.outbox.queue = m :: rest) (hm : m.address.isUnset = true) :
      Proceeds s number (.listening since) ⟨some (.activity (.sender number (.listening since))),
        s.withQueue rest, [.dequeued m false]⟩
  | announce {since : Nat} {m : Message} {rest : List Message} {s' : Stage} {deed : Deed}
      (hq : s.bot.outbox.queue = m :: rest) (hm : m.isInternal = true)
      (ha : (s.withQueue rest).Announces m s' deed) :
      Proceeds s number (.listening since) ⟨some (.activity (.sender number (.listening since))),
        s', [.dequeued m false, deed]⟩
  | hand {since : Nat} {m : Message} {rest : List Message} (hq : s.bot.outbox.queue = m :: rest)
      (hu : m.address.isUnset = false) (hi : m.isInternal = false) (taken : Bool) (time : Nat) :
      Proceeds s number (.listening since)
        ⟨some (.activity (.sender number (.sending since ⟨m.outward, taken⟩ time))),
          (s.withQueue rest).hand ⟨m.outward, taken⟩, [.dequeued m taken]⟩
  | lose {since time : Nat} {h : Handover} (ht : h.taken = false) :
      Proceeds s number (.sending since h time)
        ⟨some (.activity (.sender number (.listening since))), s, []⟩
  | arrive {since time : Nat} {h : Handover} {s' : Stage} {deed : Deed}
      (ht : h.taken = true) (ha : s.Announces h.message s' deed) :
      Proceeds s number (.sending since h time)
        ⟨some (.activity (.sender number (.listening since))), s', [deed]⟩

/-- What is to be remembered of an evaluation. -/
def Session.deed? (session : Session) : Occurrence → Option Deed
  | .published _ _ command => some (.published (session.request command))
  | .fired _ _ _ _ | .taken _ _ _ | .opened _ _ | .returned _ _ _ => none

/-- The reply to the one who asked. -/
def Recipient.deeds (result : Except CommandError String) : Recipient → List Deed
  | .asker name request => [.posted (request.respond (replyBody name request result) name)]
  | .attendant _ => []

/-- The first turn of a command, unless it begins an evaluation. -/
def Stage.begin? (s : Stage) (m : Message) : Command → Option Turn
  | .echo => some (.ends (Echo.reply m.text))
  | .help => some (.ends (Help.reply s.bot.registry s.bot.config.opening m.text))
  | .eval =>
    match Eval.request m.text with
    | .error e => some (.ends (.error e))
    | .ok (.show text) => some (.ends (.ok text))
    | .ok (.evaluate _ _) => none
  | .custom start => some (s.follow (start m))

/-- The activities that neither work for anyone nor empty the outbox. -/
def Activity.IsBystander : Activity → Prop
  | .launched (.inbox _ _) _ | .launched (.guest _) _ | .script _ _ | .ticker _ => True
  | .launched (.command _) _ | .job _ _ | .sender _ _ => False

/-- What a task does next. -/
inductive Errand.Proceeds (s : Stage) : Errand → Stride → Prop where
  | launch {serial : Nat} {i : Installation} {payload : Payload} {m : Message}
      (hi : s.bot.installation? serial = some i) (hm : Payload.message? payload = some m) :
      Proceeds s (.activity (.launched (.command serial) payload))
        ⟨some (.activity (.job (.asker i.name m) (.fresh i.command m))), s, [.ran i.name m]⟩
  | stray {serial : Nat} {payload : Payload}
      (h : s.bot.installation? serial = none ∨ Payload.message? payload = none) :
      Proceeds s (.activity (.launched (.command serial) payload)) ⟨none, s, []⟩
  | run {recipient : Recipient} {command : Command} {m : Message} {turn : Turn}
      (ht : s.begin? m command = some turn) :
      Proceeds s (.activity (.job recipient (.fresh command m)))
        ⟨some (.ofTurn recipient turn), s, []⟩
  | begin {recipient : Recipient} {m : Message} {text : String} {seconds : Option Nat}
      (hm : Eval.request m.text = .ok (.evaluate text seconds)) (deadline : Nat) :
      Proceeds s (.activity (.job recipient (.fresh .eval m)))
        ⟨some (.evaluation recipient (s.openSession m deadline).1
            (.talking (s.bot.config.language.evaluate text))),
          (s.openSession m deadline).2, [.began (s.openSession m deadline).1.address]⟩
  | resume {recipient : Recipient} {time : Nat} {course : Course} :
      Proceeds s (.activity (.job recipient (.paused time course)))
        ⟨some (.ofTurn recipient (s.follow course)), s, []⟩
  | evaluate {recipient : Recipient} {session : Session} {phase : Phase} {m : Move}
      (hm : phase.Proceeds s session m) :
      Proceeds s (.evaluation recipient session phase)
        ⟨some (.evaluation recipient session m.phase), m.stage,
          m.occurrences.filterMap session.deed?⟩
  | conclude {recipient : Recipient} {session : Session} {text : String} :
      Proceeds s (.evaluation recipient session (.talking (.done text)))
        ⟨some (.result recipient (.ok text)), s, []⟩
  | fail {recipient : Recipient} {session : Session} {e : EvalError} :
      Proceeds s (.evaluation recipient session (.talking (.fail e)))
        ⟨some (.result recipient (.error (.eval e))), s, []⟩
  | report {recipient : Recipient} {result : Except CommandError String} :
      Proceeds s (.result recipient result)
        ⟨none, s.report result recipient, recipient.deeds result⟩
  | send {number : Option Nat} {state : SenderState} {stride : Stride}
      (hs : state.Proceeds s number stride) : Proceeds s (.activity (.sender number state)) stride
  | attend {a : Activity} (ha : a.IsBystander) (company : Company) :
      Proceeds s (.activity a)
        ⟨(Stage.poll company a s).1.map .activity, (Stage.poll company a s).2, []⟩

/-! ### Chronicles -/

/-- A message that was accepted, and the stage before that. -/
structure Acceptance where
  message : Message
  stage : Stage

/-- Something that was done, by a task or from outside. -/
structure Record where
  doer : Option Nat
  deed : Deed

/-- A bot at work, with the tasks that are in the middle of a turn, the messages that were accepted
and what was done so far, the oldest first.  A task is put down to the number of a message. -/
structure Chronicle where
  stage : Stage
  running : List (Nat × Errand) := []
  accepted : List Acceptance := []
  cause : Nat → Option Nat := fun _ => none
  history : List Record := []

/-- The activities that someone outside starts and may drop: senders, and commands that are attended
to. -/
def Activity.IsAttended : Activity → Prop
  | .sender _ _ | .job (.attendant _) _ => True
  | .job (.asker _ _) _ | .launched _ _ | .script _ _ | .ticker _ => False

/-- Those that are about to start. -/
def Activity.IsStart : Activity → Prop
  | .sender _ .fresh | .job (.attendant _) (.fresh _ _) => True
  | _ => False

namespace Chronicle

/-- Before anything has happened. -/
def start (b : Bot) : Chronicle where
  stage := Stage.ofBot b

/-- All tasks that have not ended. -/
def tasks (χ : Chronicle) : List (Nat × Errand) := χ.stage.scheduled ++ χ.running

/-- The causes of tasks, where those that are still to come have the given one. -/
def causes (χ : Chronicle) (cause : Option Nat) : Nat → Option Nat :=
  fun id => if id < χ.stage.spawned then χ.cause id else cause

/-- Something happened that has nothing to do with any message. -/
def pass (χ : Chronicle) (s : Stage) : Chronicle :=
  { χ with stage := s, cause := χ.causes none }

/-- A message was accepted. -/
def accept (χ : Chronicle) (m : Message) (s : Stage) : Chronicle :=
  { χ with
    stage := s
    accepted := χ.accepted ++ [⟨m, χ.stage⟩]
    cause := χ.causes (some χ.accepted.length) }

/-- A task has gone on. -/
def advance (χ : Chronicle) (id : Nat) (rest : List (Nat × Errand)) (o : Stride) : Chronicle :=
  { χ with
    stage := o.stage
    running := (o.next.map (id, ·)).toList ++ rest
    cause := χ.causes (χ.cause id)
    history := χ.history ++ o.deeds.map (⟨some id, ·⟩) }

/-- What can happen next. -/
inductive Step (χ : Chronicle) : Chronicle → Prop where
  /-- Tasks begin or end a turn, are woken or put in another order, and time goes by. -/
  | reschedule {s : Stage} {running : List (Nat × Errand)} (hb : s.bot = χ.stage.bot)
      (hs : s.spawned = χ.stage.spawned) (hn : χ.stage.now ≤ s.now)
      (ht : ({ χ.pass s with running := running } : Chronicle).tasks.Perm χ.tasks) :
      Step χ { χ.pass s with running := running }
  /-- A task goes on. -/
  | proceed {id : Nat} {e : Errand} {rest : List (Nat × Errand)} {o : Stride}
      (hr : χ.running = (id, e) :: rest) (he : e.Proceeds χ.stage o) :
      Step χ (χ.advance id rest o)
  /-- A sender is dropped, or a command that someone attends to. -/
  | drop {id : Nat} {a : Activity} {rest : List (Nat × Errand)} (ha : a.IsAttended)
      (hr : χ.running = (id, .ofActivity a) :: rest) :
      Step χ { χ.pass (χ.stage.drop a) with running := rest }
  /-- A message comes in and is accepted.  Its address may be one that was minted here before. -/
  | receive {m : Message} {s : Stage} (hr : χ.stage.receive m = (.ok true, s))
      (hm : ∀ a, m.address = .internal a → a.serial < χ.stage.bot.minted) :
      Step χ (χ.accept m s)
  /-- Someone queues a message. -/
  | post (m : Message) :
      Step χ { χ.pass (χ.stage.post m) with history := χ.history ++ [⟨none, .posted m⟩] }
  /-- A sender is started, or a command. -/
  | spawn {a : Activity} (ha : a.IsStart) : Step χ (χ.pass (χ.stage.spawn a).2)
  /-- Senders are asked to stop. -/
  | stop : Step χ (χ.pass χ.stage.signalStop)
  /-- Someone else fires. -/
  | fire {event : String} {payload : Payload} {ids : List Nat} {s : Stage}
      (hf : χ.stage.fire event payload = .ok (ids, s)) : Step χ (χ.pass s)
  | startTicker : Step χ (χ.pass χ.stage.startTicker)
  | stopTicker : Step χ (χ.pass χ.stage.stopTicker)
  /-- Commands are added and removed, or someone else changes the host. -/
  | edit {e : BotEdit} (he : e.IsUnrelated) :
      Step χ (χ.pass (χ.stage.modify fun b => (b.edit e).2))
  /-- Someone else mints an id. -/
  | mint : Step χ (χ.pass χ.stage.mint.2)

/-- Several steps. -/
abbrev Steps : Chronicle → Chronicle → Prop := Relation.ReflTransGen Step

/-- The states that are reached from a new bot through states in which `P` holds. -/
inductive Run (P : Chronicle → Prop) : Chronicle → Prop where
  | start {config : Config} {b : Bot} (hb : Bot.ofConfig config = .ok b) (hp : P (.start b)) :
      Run P (.start b)
  | step {χ χ' : Chronicle} (h : Run P χ) (hs : Step χ χ') (hp : P χ') : Run P χ'

/-- The states that are reached at all. -/
abbrev Reachable : Chronicle → Prop := Run fun _ => True

theorem Run.holds {P : Chronicle → Prop} {χ : Chronicle} (h : Run P χ) : P χ := by
  cases h with
  | start _ hp => exact hp
  | step _ _ hp => exact hp

/-! ### What was done -/

/-- The message that was put into the outbox. -/
def Deed.posted? : Deed → Option Message
  | .posted m => some m
  | _ => none

/-- The message that was taken out of the outbox, and whether the transport took it. -/
def Deed.dequeued? : Deed → Option (Message × Bool)
  | .dequeued m taken => some (m, taken)
  | _ => none

/-- The message that was announced, and whether this was heard. -/
def Deed.announced? : Deed → Option (Message × Bool)
  | .announced m heard => some (m, heard)
  | _ => none

/-- The messages that were put into the outbox, in order. -/
def posted (χ : Chronicle) : List Message := χ.history.filterMap (·.deed.posted?)

/-- The messages that were taken out of the outbox, in order. -/
def dequeued (χ : Chronicle) : List (Message × Bool) := χ.history.filterMap (·.deed.dequeued?)

/-- The messages that were announced, in order. -/
def announced (χ : Chronicle) : List (Message × Bool) := χ.history.filterMap (·.deed.announced?)

/-- What was done on behalf of an accepted message. -/
def doneFor (χ : Chronicle) (n : Nat) : List Deed :=
  (χ.history.filter fun r => r.doer.bind χ.cause == some n).map (·.deed)

end Chronicle

end ChatBot
