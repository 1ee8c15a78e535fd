import ChatBot.Bot.State

/-!
# The commands of a bot

A command has an entry in the registry, and a callback on the host that serves it. Adding and
removing a command keeps the two in step: where one of them is refused, neither changes.
-/

namespace ChatBot

/-- The callback that serves the command with a serial number. -/
def commandCallback (serial : Nat) : Callback Handler where
  target := ⟨Schema.ofMessage, .command serial⟩
  prefilter := some ⟨Schema.ofMessage, .command serial⟩
  preprocessor := some ⟨Schema.ofMessage, .command serial⟩

namespace Bot

/-- All commands. -/
def commands (b : Bot) : List CommandInfo := b.registry.list

/-- Reserves a name for a command that is answered elsewhere. The answer is whether it was free. -/
def registerCommand (b : Bot) (owner name description : String) : Except BotError Bool × Bot :=
  match b.registry.register owner name description with
  | .error e => (.error (.command e), b)
  | .ok (isNew, registry) => (.ok isNew, { b with registry := registry })

/-- Removes a command and stops answering it. The answer is whether there was one. -/
def unregisterCommand (b : Bot) (name : String) : Bool × Bot :=
  match b.registry.unregister name with
  | (none, registry) => (false, { b with registry := registry })
  | (some registration, registry) =>
    let host :=
      registration.callback.elim b.host fun c => b.host.unsubscribe CoreEvent.onMessage.name c
    (true, { b with registry := registry, host := host })

/-- Lets a listener of someone else listen to an event. -/
def subscribe (b : Bot) (event : String) (c : Callback Handler) : Except EventError Unit × Bot :=
  match b.host.subscribe event c with
  | .error e => (.error e, b)
  | .ok host => (.ok (), { b with host := host })

/-- Puts a command down under a serial number of its own. -/
def install (b : Bot) (i : Installation) : Nat × Bot :=
  (b.minted, { b with minted := b.minted + 1, installed := (b.minted, i) :: b.installed })

/-- Answers messages that call `name` with a command. The pattern that recognizes them has to be
compiled first, and `pattern` is what came of that. -/
def addCommand (b : Bot) (name description : String) (command : Command)
    (pattern : Except String Unit := .ok ()) : Except BotError Unit × Bot :=
  match b.registerCommand name name description with
  | (.error e, b) => (.error e, b)
  | (.ok false, b) => (.error (.command (.alreadyRegistered name)), b)
  | (.ok true, b) =>
    match pattern with
    | .error reason =>
      (.error (.command (.invalidName ⟨name, reason⟩)),
        { b with registry := (b.registry.unregister name).2 })
    | .ok () =>
      let (serial, b) := b.install ⟨name, command⟩
      match b.subscribe CoreEvent.onMessage.name (commandCallback serial) with
      | (.error e, b) => (.error (.event e), { b with registry := (b.registry.unregister name).2 })
      | (.ok (), b) =>
        (.ok (), { b with registry := b.registry.attach name (commandCallback serial) })

/-- Adds commands until one is refused. -/
def addCommands (b : Bot) : List (String × String × Command) → Except BotError Unit × Bot
  | [] => (.ok (), b)
  | (name, description, command) :: rest =>
    match b.addCommand name description command with
    | (.error e, b) => (.error e, b)
    | (.ok (), b) => b.addCommands rest

/-- The commands that come with every bot. -/
def defaultCommands : List (String × String × Command) :=
  [("echo", "Echo text back to the sender", .echo), ("eval", "Evaluate statements!", .eval),
    ("help", "List commands or describe one", .help)]

end Bot

end ChatBot
