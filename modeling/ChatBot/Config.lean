import ChatBot.Error
import ChatBot.Evaluation.Walk

/-!
# Configuration

What a bot's owner chooses: its name, how commands start, and the limits on its work. All times are
in milliseconds.
-/

namespace ChatBot

/-- Limits and marks for evaluations. -/
structure EvalConfig where
  /-- How long an evaluation may take. -/
  timeLimit : Nat := 5000
  /-- How deep expressions may nest. -/
  maxDepth : Nat := Node.defaultMaxDepth
  /-- The marks that structure expressions. -/
  marks : Marks := {}
  deriving DecidableEq, Repr

/-- The choices of a bot's owner. -/
structure Config where
  /-- The name of the bot. -/
  nick : String := "jante"
  /-- How commands start. -/
  opening : String := "!"
  /-- More tasks in flight than this, and incoming messages are dropped. -/
  maxTasks : Nat := 20
  /-- How long a shutdown waits for tasks in flight. -/
  shutdownTimeout : Nat := 5000
  /-- The time between two ticks; no ticks if it is zero. -/
  tickInterval : Nat := 1000
  /-- How expressions are evaluated. -/
  eval : EvalConfig := {}
  deriving DecidableEq, Repr

namespace Config

/-- The language in which the bot's expressions are written. -/
def language (c : Config) : Language := ⟨c.eval.marks, c.eval.maxDepth, c.opening⟩

/-- Refuses a name that is not one word, an empty opening, and marks that are not consistent. -/
def validate (c : Config) : Except Error Unit :=
  if Text.isBlank c.nick || c.nick.toList.any Text.isSpace then
    .error (.config ("invalid nick " ++ Text.quoted c.nick))
  else if c.opening.isEmpty then .error (.config "command_prefix must not be empty")
  else if !c.eval.marks.isConsistent then
    .error (.config ("eval syntax characters must be distinct: " ++ c.eval.marks.describe))
  else .ok ()

end Config

end ChatBot
