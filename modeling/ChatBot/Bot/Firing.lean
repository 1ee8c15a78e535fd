import ChatBot.Bot.State
import ChatBot.Command.Invocation

/-!
# Firing events

What the listeners of a bot do when an event is fired, and the firing itself: every target that
passes is spawned as a task of its own, and the one who fires gets the tasks' numbers and does not
wait for them.
-/

namespace ChatBot

namespace Bot

/-- The command that was installed under a serial number. -/
def installation? (b : Bot) (serial : Nat) : Option Installation := b.installed.lookup serial

/-- The arguments that a message gives to the command `name`. Failures invoke nothing. -/
def arguments? (b : Bot) (name : String) (m : Message) : Option String :=
  match m.body with
  | .text text => Invocation.arguments? b.config.opening name text
  | .error _ => none

/-- Whether a payload concerns a listener. -/
def concerns (b : Bot) (payload : Payload) : Handler → Bool
  | .inbox _ address => (Payload.message? payload).any (·.address == .internal address)
  | .command serial =>
    match b.installation? serial, Payload.message? payload with
    | some i, some m => (b.arguments? i.name m).isSome
    | _, _ => false
  | .guest _ => true

/-- The payload as a listener gets it: a command sees only its arguments. -/
def prepare (b : Bot) (payload : Payload) : Handler → Payload
  | .command serial =>
    match b.installation? serial, Payload.message? payload with
    | some i, some m =>
      Payload.ofMessage (m.withText ((b.arguments? i.name m).getD m.text))
    | _, _ => payload
  | _ => payload

/-- The prefilters and preprocessors of a bot change nothing. -/
def conduct (b : Bot) : Conduct Handler Unit where
  passes h payload _ := (b.concerns payload h, ())
  adapt h payload _ := (b.prepare payload h, ())

/-- The listeners to run when an event is fired. -/
def launches (b : Bot) (event : String) (payload : Payload) :
    Except EventError (List (Launch Handler)) :=
  (b.conduct.fire true b.host event payload ()).1

end Bot

namespace Stage

/-- Fires an event. -/
def fire (s : Stage) (event : String) (payload : Payload) :
    Except EventError (List Nat × Stage) := do
  let launches ← s.bot.launches event payload
  return s.spawnAll (launches.map fun l => .launched l.target l.payload)

/-- Fires an event and tracks the tasks it starts. -/
def fireTracked (s : Stage) (event : CoreEvent) (payload : Payload) :
    Except EventError Stage := do
  let (ids, s) ← s.fire event.name payload
  return s.track ids

end Stage

end ChatBot
