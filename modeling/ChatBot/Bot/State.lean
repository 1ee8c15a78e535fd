import ChatBot.Command
import ChatBot.Command.Registry
import ChatBot.Config
import ChatBot.Event.Core
import ChatBot.Event.Dispatch
import ChatBot.Schedule

/-!
# The state of a bot

What a bot is made of: its event host, its commands, the outbox with the replies that are still to
be sent, the ticker, and the inboxes of those who wait for a reply. Everything that takes time is an
`Activity`, which is scheduled over this state.
-/

namespace ChatBot

/-- The functions that listen to a bot's events. -/
inductive Handler where
  /-- Puts the reply to an evaluation into the inbox `listener`, which has this address. -/
  | inbox (listener : Nat) (address : CorrelationId)
  /-- Runs a command. -/
  | command (serial : Nat)
  /-- A listener that is not the bot's own. -/
  | guest (name : String)
  deriving DecidableEq, Repr

/-- What a guest does with a payload. -/
inductive Script where
  /-- Nothing more. -/
  | done
  /-- Goes on after some milliseconds. -/
  | wait (span : Nat) (next : Script)
  /-- Writes a payload down. -/
  | note (label : String) (payload : Payload) (next : Script)
  /-- Fires an event. -/
  | fire (event : String) (payload : Payload) (next : Script)
  /-- Mints a correlation id. -/
  | mint (origin : String) (next : CorrelationId → Script)

/-- What a guest has written down. -/
structure Note where
  /-- What it is about. -/
  label : String
  /-- The payload. -/
  payload : Payload

/-- An evaluation: for whom, at which address it waits for replies, and until when. -/
structure Session where
  /-- The message that asked for it. -/
  origin : Message
  /-- Where replies go. -/
  address : CorrelationId
  /-- When time runs out. -/
  deadline : Nat

/-- A command at work. -/
inductive Job where
  /-- About to start. -/
  | fresh (command : Command) (request : Message)
  /-- Paused until a time. -/
  | paused (time : Nat) (course : Course)
  /-- Evaluates an expression, starting with `dialogue`. -/
  | talking (session : Session) (dialogue : Dialogue String)
  /-- Waits in an inbox for the reply to a command, with which it will go on. -/
  | asking (session : Session) (listener : Nat) (command : String)
      (resume : String → Dialogue String)

/-- Who gets the result of a command. -/
inductive Recipient where
  /-- The sender of the message, through the outbox; the reply comes from the command `name`. -/
  | asker (name : String) (request : Message)
  /-- Someone who attends to the job and looks the result up under a number. -/
  | attendant (number : Nat)

/-- A message that is given to a transport. -/
structure Handover where
  /-- The message. -/
  message : Message
  /-- Whether the transport takes it. -/
  taken : Bool
  deriving DecidableEq, Repr

/-- Where a sender stands. -/
inductive SenderState where
  /-- About to start. -/
  | fresh
  /-- Waits for messages, and for a stop signal after the first `since` ones. -/
  | listening (since : Nat)
  /-- Waits until the transport is done with a message. -/
  | sending (since : Nat) (handover : Handover) (time : Nat)

/-- Everything in a bot that takes time. -/
inductive Activity where
  /-- A listener that was dispatched. -/
  | launched (handler : Handler) (payload : Payload)
  /-- A guest at work, paused until a time. -/
  | script (time : Nat) (script : Script)
  /-- A command at work. -/
  | job (recipient : Recipient) (work : Job)
  /-- A sender; its result is looked up under a number. -/
  | sender (number : Option Nat) (state : SenderState)
  /-- The ticker, waiting for its next tick. -/
  | ticker (next : Option Nat)

/-- Where the receiving end of the outbox is. -/
inductive Receiver where
  /-- There for a sender to take. -/
  | free
  /-- Taken by a sender. -/
  | taken
  /-- Gone with a sender that was dropped. -/
  | lost
  deriving DecidableEq, Repr

/-- The replies that are still to be sent. -/
structure Outbox where
  /-- The messages, the oldest first. -/
  queue : List Message := []
  /-- Where the receiving end is. -/
  receiver : Receiver := .free
  /-- How many stop signals there have been. -/
  stops : Nat := 0

/-- The ticker. -/
structure Ticker where
  /-- Whether it is started. -/
  running : Bool := false
  /-- The task that ticks. -/
  task : Option Nat := none

/-- A command that listens on the host. -/
structure Installation where
  /-- How the command is called. -/
  name : String
  /-- What it does. -/
  command : Command

/-- What someone who attends to an activity gets in the end. -/
inductive Outcome where
  /-- The result of a command. -/
  | reply (result : Except CommandError String)
  /-- The result of a sender. -/
  | sent (result : Except BotError Unit)

/-- A bot. -/
structure Bot where
  /-- The choices of its owner. -/
  config : Config := {}
  /-- Its events. -/
  host : Host Handler := {}
  /-- How many numbers have been given out. -/
  minted : Nat := 0
  /-- The open inboxes. -/
  inboxes : List Nat := []
  /-- The replies that lie in open inboxes. -/
  replies : List (Nat × Message) := []
  /-- Its commands. -/
  registry : Registry Handler := {}
  /-- The commands that listen, by serial number. -/
  installed : List (Nat × Installation) := []
  /-- The replies that are still to be sent. -/
  outbox : Outbox := {}
  /-- The ticker. -/
  ticker : Ticker := {}
  /-- What the transport was given. -/
  handed : List Handover := []
  /-- What guests have written down, the latest first. -/
  journal : List Note := []
  /-- The results of attended activities. -/
  outcomes : List (Nat × Outcome) := []

/-- A bot at work. -/
abbrev Stage := Schedule Bot Activity

/-- What guests have written down after the first `seen` notes, the latest last. -/
def Bot.notesAfter (b : Bot) (seen : Nat) : List Note :=
  (b.journal.take (b.journal.length - seen)).reverse

/-- How a transport takes a message. -/
structure Carriage where
  /-- How long it takes. -/
  span : Nat := 0
  /-- Whether the message is refused. -/
  refused : Bool := false

/-- Who is around a bot. -/
structure Company where
  /-- What a guest does with a payload, in view of what was written down so far. -/
  guest : String → Payload → List Note → Script := fun _ _ _ => .done
  /-- The transport. -/
  transport : Message → Carriage := fun _ => {}
  /-- Whether a sender that is asked to stop stops at once, although there are messages left. -/
  stopsFirst : Bot → Bool := fun _ => true

namespace Stage

/-- The bot. -/
def bot (s : Stage) : Bot := s.state

/-- Gives out a number. -/
def mint (s : Stage) : Nat × Stage :=
  (s.bot.minted, s.modify fun b => { b with minted := b.minted + 1 })

/-- Puts down the result of an attended activity. -/
def conclude (s : Stage) (number : Nat) (outcome : Outcome) : Stage :=
  s.modify fun b => { b with outcomes := b.outcomes ++ [(number, outcome)] }

/-- Puts a message into the outbox. Without a receiving end it is dropped. -/
def post (s : Stage) (m : Message) : Stage :=
  s.modify fun b =>
    if b.outbox.receiver = .lost then b
    else { b with outbox := { b.outbox with queue := b.outbox.queue ++ [m] } }

end Stage

end ChatBot
