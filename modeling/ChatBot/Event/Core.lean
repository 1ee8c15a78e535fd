import ChatBot.Event.Schema

/-!
# Core events

The events that every bot has.
-/

namespace ChatBot

/-- An event that every bot has. -/
inductive CoreEvent where
  /-- A chat line arrived, from a transport or from an expression. -/
  | onMessage
  /-- A reply left the outbox. -/
  | onMessageSent
  /-- All plugins have registered their commands. -/
  | onPluginsLoaded
  /-- The bot shuts down and state should be kept. -/
  | shouldSave
  /-- The ticker ticked. -/
  | onTimerTick
  deriving DecidableEq, Repr

namespace CoreEvent

/-- All core events, in the order in which they are created. -/
def all : List CoreEvent :=
  [.onMessage, .onMessageSent, .onPluginsLoaded, .shouldSave, .onTimerTick]

/-- The name of an event on the host. -/
def name : CoreEvent → String
  | .onMessage => "on_message"
  | .onMessageSent => "on_message_sent"
  | .onPluginsLoaded => "on_plugins_loaded"
  | .shouldSave => "should_save"
  | .onTimerTick => "on_timer_tick"

/-- The parameter of a tick: the time of the clock. -/
def timeKey : String := "timeval"

/-- The parameters of an event. -/
def schema : CoreEvent → Schema
  | .onMessage | .onMessageSent => Schema.ofMessage
  | .onPluginsLoaded | .shouldSave => ⟨[]⟩
  | .onTimerTick => ⟨[timeKey]⟩

/-- The core event of a name. -/
def ofName? (name : String) : Option CoreEvent := all.find? (·.name == name)

end CoreEvent

end ChatBot
