import ChatBot.Bot.Firing

/-!
# Round trips

How an evaluation gets a command answered. It opens an inbox, which listens for messages that carry
the address of the evaluation, publishes the command with that address, and waits. The inbox keeps
the first reply and is closed on every way out.
-/

namespace ChatBot

/-- The listener that serves an inbox. -/
def inboxCallback (listener : Nat) (address : CorrelationId) : Callback Handler where
  target := ⟨Schema.ofMessage, .inbox listener address⟩
  prefilter := some ⟨Schema.ofMessage, .inbox listener address⟩

/-- The message that publishes a command of an evaluation. Whoever asked for the evaluation appears
as its sender. -/
def Session.request (session : Session) (command : String) : Message where
  body := .text command
  sender := session.origin.sender
  address := .internal session.address
  isInGroup := session.origin.isInGroup
  nickname := session.origin.nickname

namespace Stage

/-- Closes an inbox. -/
def closeInbox (s : Stage) (listener : Nat) (address : CorrelationId) : Stage :=
  s.modify fun b => { b with
    host := b.host.unsubscribe CoreEvent.onMessageSent.name (inboxCallback listener address)
    inboxes := b.inboxes.erase listener
    replies := b.replies.filter (·.1 != listener) }

/-- Opens an inbox for replies to `address`. -/
def openInbox (s : Stage) (address : CorrelationId) : Except EventError (Nat × Stage) :=
  let (listener, s) := Stage.mint s
  match s.bot.host.subscribe CoreEvent.onMessageSent.name (inboxCallback listener address) with
  | .error e => .error e
  | .ok host =>
    .ok (listener, s.modify fun b => { b with host := host, inboxes := listener :: b.inboxes })

/-- The reply in an inbox. -/
def reply? (s : Stage) (listener : Nat) : Option Message := s.bot.replies.lookup listener

/-- Puts a reply into an inbox that is open and empty. -/
def receiveReply (s : Stage) (listener : Nat) (reply : Message) : Stage :=
  if listener ∈ s.bot.inboxes ∧ Stage.reply? s listener = none then
    s.modify fun b => { b with replies := (listener, reply) :: b.replies }
  else s

/-- Publishes a command and opens an inbox for its reply. Nothing is left behind if that fails. -/
def ask (s : Stage) (session : Session) (command : String) : Except EventError Nat × Stage :=
  match Stage.openInbox s session.address with
  | .error e => (.error e, s)
  | .ok (listener, s) =>
    match Stage.fireTracked s .onMessage (Payload.ofMessage (session.request command)) with
    | .error e => (.error e, Stage.closeInbox s listener session.address)
    | .ok s => (.ok listener, s)

end Stage

/-- What a reply means to the one who asked. -/
def replyText (command : String) (reply : Message) : Except EvalError String :=
  match reply.body with
  | .text text => .ok text
  | .error reason => .error (.commandFailed command reason)

/-- The last time that the clock can show. It counts seconds below `2 ^ 63`, and was not set to zero
for the bot: a day has gone by before anything happens here. -/
def clockLimit : Nat := (Nat.pow 2 63 - 1 - 86400) * 1000

/-- Thirty years. -/
def farFuture : Nat := 86400 * 365 * 30 * 1000

/-- The time after a span. A span that ends after all time is taken for thirty years. -/
def deadlineAfter (now span : Nat) : Nat :=
  if now + span < clockLimit then now + span else now + farFuture

end ChatBot
