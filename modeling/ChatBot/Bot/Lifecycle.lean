import ChatBot.Bot.Commands
import ChatBot.Bot.Program

/-!
# The life of a bot

A bot is made from a configuration, takes messages in and queues others, and is shut down: whoever
has something to save is told so, tasks in flight are waited for as long as the configuration
allows, and then the sender is stopped.
-/

namespace ChatBot

/-- A bot with its core events and without commands. -/
def Bot.ofConfig (config : Config) : Except BotError Bot := do
  config.validate.mapError fun e => .invalidConfig e.message
  let host ← (CoreEvent.all.foldlM (fun (h : Host Handler) e => h.create e.name e.schema)
    Host.empty).mapError BotError.event
  return { config := config, host := host }

/-- Whether a bot takes a message in: it is not blank, and its sender is one word. -/
def Message.isAcceptable (m : Message) : Bool :=
  !Text.isBlank m.text && !m.sender.isEmpty && !m.sender.toList.any Text.isSpace

/-- The message as commands see it: its sender goes by a name in any case. -/
def Message.named (m : Message) : Message := m.withNickname (some (m.nickname.getD m.sender))

namespace Stage

/-- A bot before anything has happened. -/
def ofBot (b : Bot) : Stage := { state := b }

/-- Fires an event that nobody has to listen to, and tracks the tasks it starts. -/
def tell (s : Stage) (event : CoreEvent) (payload : Payload) : Except BotError Unit × Stage :=
  match Stage.fireTracked s event payload with
  | .ok s => (.ok (), s)
  | .error e => (.error (.event e), s)

/-- Takes in a message. The answer is whether it was passed on: it is dropped where it is not
acceptable, or too many tasks are in flight. -/
def receive (s : Stage) (m : Message) : Except BotError Bool × Stage :=
  if !m.isAcceptable then (.ok false, s)
  else if s.bot.config.maxTasks < s.outstanding then (.ok false, s)
  else
    let (result, s) := Stage.tell s .onMessage (Payload.ofMessage m.named)
    (result.map fun _ => true, s)

/-- Announces that all plugins have registered their commands. -/
def announcePlugins (s : Stage) : Except BotError Unit × Stage := Stage.tell s .onPluginsLoaded []

/-- Adds the commands that come with every bot, and announces them. -/
def loadPlugins (s : Stage) : Except BotError Unit × Stage :=
  match s.bot.addCommands Bot.defaultCommands with
  | (.error e, b) => (.error e, s.modify fun _ => b)
  | (.ok (), b) => Stage.announcePlugins (s.modify fun _ => b)

/-- Starts a sender. -/
def startSender (s : Stage) : Nat × Stage := s.spawn (.sender none .fresh)

/-- Gives a stop signal to every sender that listens. -/
def signalStop (s : Stage) : Stage := Stage.withOutbox s fun o => { o with stops := o.stops + 1 }

/-- Stops keeping track of tasks, and tells which ones there were. -/
def drainTracked (s : Stage) : List Nat × Stage := (s.tracked, { s with tracked := [] })

/-- Waits for the tasks that are tracked, as long as the configuration allows. The answer is whether
all of them have ended. -/
def joinTracked (s : Stage) (company : Company) : Bool × Stage :=
  let (ids, s) := Stage.drainTracked s
  s.await company.program (fun s => ids.all fun id => !s.isLive id)
    (some (s.now + s.bot.config.shutdownTimeout))

/-- Stops the ticker, and asks whoever has something to save to do so. -/
def askToSave (s : Stage) : Stage := (Stage.tell (Stage.stopTicker s) .shouldSave []).2

/-- Comes to rest. The answer is whether the tasks in flight have ended in time. -/
def windUp (s : Stage) (company : Company) : Bool × Stage :=
  Stage.joinTracked (Stage.askToSave s) company

/-- Shuts down. -/
def shutdown (s : Stage) (company : Company) : Stage :=
  Stage.signalStop (Stage.windUp s company).2

end Stage

end ChatBot
