import ChatBot.Bot.Firing

/-!
# The sender

A sender takes the receiving end of the outbox, so that there can be only one, and hands the
messages on, the oldest first: internal ones are announced to whoever waits for them, external ones
go through the transport and are announced when it has taken them. On a stop signal it puts the
receiving end back, with whatever is still queued.
-/

namespace ChatBot

/-- What a failure of `sender` looks like outside. -/
def outwardFailure (sender reason : String) : String := sender ++ "-exception: " ++ reason

/-- A message as a transport gets it: failures are told as texts. -/
def Message.outward (m : Message) : Message :=
  match m.body with
  | .text _ => m
  | .error reason => m.withText (outwardFailure m.sender reason)

namespace Stage

/-- Announces a message that has left the outbox. Where it cannot be announced, nobody waits. -/
def announce (s : Stage) (m : Message) : Stage :=
  match Stage.fireTracked s .onMessageSent (Payload.ofMessage m) with
  | .ok s => s
  | .error _ => s

/-- The end of a message's way through the transport. -/
def arrive (s : Stage) (h : Handover) : Stage := if h.taken then Stage.announce s h.message else s

/-- Gives a message to the transport. -/
def hand (s : Stage) (h : Handover) : Stage := s.modify fun b => { b with handed := b.handed ++ [h] }

/-- Delivers a message. If the transport takes its time, the answer is what it carries and until
when. -/
def deliver (s : Stage) (company : Company) (m : Message) : Option (Handover × Nat) × Stage :=
  if m.address.isUnset then (none, s)
  else if m.isInternal then (none, Stage.announce s m)
  else
    let carriage := company.transport m.outward
    let h : Handover := ⟨m.outward, !carriage.refused⟩
    let s := Stage.hand s h
    if carriage.span = 0 then (none, Stage.arrive s h)
    else (some (h, s.now + carriage.span), s)

/-- Changes the outbox. -/
def withOutbox (s : Stage) (f : Outbox → Outbox) : Stage :=
  s.modify fun b => { b with outbox := f b.outbox }

/-- Whether there was a stop signal after the first `since` ones. -/
def isStopped (s : Stage) (since : Nat) : Bool := decide (since < s.bot.outbox.stops)

/-- A sender ends, with its result under `number` if someone attends to it. -/
def endSender (s : Stage) (number : Option Nat) (result : Except BotError Unit) : Stage :=
  number.elim s fun n => Stage.conclude s n (.sent result)

/-- A sender puts the receiving end back and ends. -/
def releaseOutbox (s : Stage) (number : Option Nat) : Stage :=
  Stage.endSender (Stage.withOutbox s fun o => { o with receiver := .free }) number (.ok ())

/-- A sender hands on the messages that are queued, until it is asked to stop or the transport
takes its time. -/
def serve (company : Company) (number : Option Nat) (since : Nat) :
    List Message → Stage → Option SenderState × Stage
  | [], s =>
    if Stage.isStopped s since then (none, Stage.releaseOutbox s number)
    else (some (.listening since), s)
  | m :: rest, s =>
    if Stage.isStopped s since && company.stopsFirst s.bot then
      (none, Stage.releaseOutbox s number)
    else
      match Stage.deliver (Stage.withOutbox s fun o => { o with queue := rest }) company m with
      | (some (h, time), s) => (some (.sending since h time), s)
      | (none, s) => serve company number since rest s

/-- One turn of a sender. -/
def pollSender (s : Stage) (company : Company) (number : Option Nat) :
    SenderState → Option SenderState × Stage
  | .fresh =>
    if s.bot.outbox.receiver = .free then
      let since := s.bot.outbox.stops
      let s := Stage.withOutbox s fun o => { o with receiver := .taken }
      Stage.serve company number since s.bot.outbox.queue s
    else (none, Stage.endSender s number (.error .senderRunning))
  | .listening since => Stage.serve company number since s.bot.outbox.queue s
  | .sending since h time =>
    if time ≤ s.now then
      let s := Stage.arrive s h
      Stage.serve company number since s.bot.outbox.queue s
    else (some (.sending since h time), s)

/-- Whether a sender has something to do. -/
def wakesSender (s : Stage) : SenderState → Bool
  | .fresh => true
  | .listening since => !s.bot.outbox.queue.isEmpty || Stage.isStopped s since
  | .sending _ _ _ => false

/-- A sender that is dropped takes the receiving end with it, and all that is queued. -/
def dropSender (s : Stage) : SenderState → Stage
  | .fresh => s
  | _ => Stage.withOutbox s fun o => { o with receiver := .lost, queue := [] }

end Stage

end ChatBot
