import ChatBot.Bot.State

/-!
# Scripted partners

Guests for rehearsals: an observer, which writes down what it sees, and a responder, which plays all
the commands that an evaluation gives out and treats each of them as it was told to.
-/

namespace ChatBot.Rehearsal

/-- A guest that writes a payload down after some milliseconds. -/
def observe (label : String) (delay : Nat) (payload : Payload) : Script :=
  .wait delay (.note label payload .done)

/-- How a request is treated. -/
structure Treatment where
  /-- How long the responder waits first. -/
  delay : Nat := 0
  /-- Whether there is no reply. -/
  isSilent : Bool := false
  /-- Whether messages that are no reply are sent before it. -/
  isNoisy : Bool := false
  /-- The reply, if it is not the usual one. -/
  reply : Option Body := none
  /-- A second reply. -/
  second : Option String := none
  /-- How long the responder stays at work afterwards. -/
  linger : Nat := 0

/-- Who plays the commands. -/
structure Responder where
  /-- How certain requests are treated, the first time, the second time and so on; the last
  treatment is repeated. -/
  special : List (String × List Treatment) := []
  /-- How all other requests are treated. -/
  usual : List Treatment := [{}]

/-- The name under which the responder signs. -/
def responderName : String := "test"

/-- The usual reply to a command: its name, and its arguments in brackets. -/
def usualReply (command : String) : String :=
  let cs := command.toList
  let cs := if cs.head? = some '!' then cs.tail else cs
  let args := (cs.dropWhile (· != ' ')).drop 1
  String.ofList (cs.takeWhile (· != ' ')) ++ "(" ++ String.ofList args ++ ")"

/-- How many of the notes are on messages with this text. -/
def countText (text : String) (notes : List Note) : Nat :=
  notes.countP fun n => n.label == CoreEvent.onMessage.name
    && n.payload.message?.any (·.text == text)

namespace Responder

/-- How the request `text` is treated when it was used `uses` times before. -/
def treatment (r : Responder) (text : String) (uses : Nat) : Treatment :=
  let treatments := (r.special.lookup text).getD r.usual
  treatments.getD uses (treatments.getLastD {})

/-- Sends a message, and goes on. -/
def send (m : Message) (next : Script) : Script :=
  .fire CoreEvent.onMessageSent.name (Payload.ofMessage m) next

/-- Messages that are no reply to `request`: to someone else inside, to someone outside, and
something that is no message at all. -/
def makeNoise (request : Message) (next : Script) : Script :=
  let noise := request.respond (.text "noise") responderName
  .mint responderName fun id =>
    send { noise with address := .internal id } <|
    send { noise with address := .external "#chan" } <|
    .fire CoreEvent.onMessageSent.name [(Payload.messageKey, .text "junk")] next

/-- What the responder does with a request. -/
def treat (request : Message) (t : Treatment) : Script :=
  let reply := t.reply.getD (.text (usualReply request.text))
  let close : Script := .wait t.linger .done
  let close := t.second.elim close fun text =>
    send (request.respond (.text text) responderName) close
  let answer := send (request.respond reply responderName) close
  .wait t.delay <|
    if t.isSilent then .done else if t.isNoisy then makeNoise request answer else answer

/-- The responder as a guest. It writes down every request. -/
def script (r : Responder) (payload : Payload) (notes : List Note) : Script :=
  .note CoreEvent.onMessage.name payload <|
    match payload.message? with
    | some request => treat request (r.treatment request.text (countText request.text notes))
    | none => .done

end Responder

end ChatBot.Rehearsal
