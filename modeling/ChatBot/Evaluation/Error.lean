import ChatBot.Event.Schema
import ChatBot.Node.Parser
import ChatBot.Token.Lexer

/-!
# Failures of an evaluation

Everything that can keep an expression from having a result.
-/

namespace ChatBot

/-- Why an evaluation has no result. That a reply is lost is no reason of its own: whoever asks for
it keeps the inbox until it is there or the deadline has passed. -/
inductive EvalError where
  /-- The text has no tokens. -/
  | lex (e : LexError)
  /-- The tokens are no expression. -/
  | parse (e : ParseError)
  /-- A variable is used that is not bound. -/
  | unboundVariable (name : String)
  /-- The deadline passed while a command was to be answered. -/
  | timeout (command : String)
  /-- A command was answered with a failure. -/
  | commandFailed (command reason : String)
  /-- A command could not be published, or its reply not be listened for. -/
  | event (e : EventError)
  deriving DecidableEq, Repr

/-- The wording of a failed evaluation. -/
def EvalError.message : EvalError → String
  | .lex e => e.message
  | .parse e => e.message
  | .unboundVariable name => "Cannot dereference variable \"" ++ name ++ "\" before it is assigned."
  | .timeout command => "Ran out of time on command \"" ++ command ++ "\"."
  | .commandFailed command reason => "\"" ++ command ++ "\" failed: " ++ reason
  | .event e => "Event error: " ++ e.message

end ChatBot
