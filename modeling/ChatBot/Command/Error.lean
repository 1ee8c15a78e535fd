import ChatBot.Evaluation.Error

/-!
# Failures of a command

What a command answers with where it has no reply, and why a command cannot be registered.
-/

namespace ChatBot

/-- A name that no command can have, and why. -/
structure NameError where
  /-- The name. -/
  name : String
  /-- What is wrong with it. -/
  reason : String
  deriving DecidableEq, Repr

/-- Why a command fails, or cannot be registered. -/
inductive CommandError where
  /-- The arguments are not what the command takes. -/
  | invalidArguments (reason : String)
  /-- The command could not do its work. -/
  | failed (reason : String)
  /-- The expression that the command evaluates failed. -/
  | eval (e : EvalError)
  /-- The name is taken. -/
  | alreadyRegistered (name : String)
  /-- The name cannot be used. -/
  | invalidName (e : NameError)
  deriving DecidableEq, Repr

/-- The wording of a failed command. -/
def CommandError.message : CommandError → String
  | .invalidArguments reason => reason
  | .failed reason => reason
  | .eval e => e.message
  | .alreadyRegistered name => "Command \"" ++ name ++ "\" is already registered"
  | .invalidName e => "Invalid command name \"" ++ e.name ++ "\": " ++ e.reason

end ChatBot
