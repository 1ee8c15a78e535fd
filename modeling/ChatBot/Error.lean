import ChatBot.Command.Error

/-!
# Failures of the bot

Failures of the bot itself, and the one type that every failure in the library can be turned into.
-/

namespace ChatBot

/-- Why the bot cannot do what it is asked for. -/
inductive BotError where
  /-- An event could not be created, fired or listened to. -/
  | event (e : EventError)
  /-- A command could not be registered. -/
  | command (e : CommandError)
  /-- A transport did not take a message. -/
  | transport (reason : String)
  /-- The configuration is not usable. -/
  | invalidConfig (reason : String)
  /-- There can be only one sender. -/
  | senderRunning
  deriving DecidableEq, Repr

/-- The wording of a failure of the bot. -/
def BotError.message : BotError → String
  | .event e => "Event error: " ++ e.message
  | .command e => "Command error: " ++ e.message
  | .transport reason => "Transport error: " ++ reason
  | .invalidConfig reason => "Invalid configuration: " ++ reason
  | .senderRunning => "Sender loop already running"

/-- Any failure. -/
inductive Error where
  /-- Around events. -/
  | event (e : EventError)
  /-- While tokens are read. -/
  | lex (e : LexError)
  /-- While an expression is parsed. -/
  | parse (e : ParseError)
  /-- While an expression is evaluated. -/
  | eval (e : EvalError)
  /-- Of a command. -/
  | command (e : CommandError)
  /-- Of the bot. -/
  | bot (e : BotError)
  /-- In a configuration. -/
  | config (reason : String)
  deriving DecidableEq, Repr

/-- The wording of any failure. -/
def Error.message : Error → String
  | .event e => "Event error: " ++ e.message
  | .lex e => "Lex error: " ++ e.message
  | .parse e => "Parse error: " ++ e.message
  | .eval e => "Eval error: " ++ e.message
  | .command e => "Command error: " ++ e.message
  | .bot e => "Bot error: " ++ e.message
  | .config reason => "Config error: " ++ reason

end ChatBot
