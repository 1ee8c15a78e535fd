import ChatBot.Bot.Lifecycle
import ChatBot.Config.Loading
import ChatBot.Text.Lines

/-!
# A bot on a console

The lines that someone types are messages to the bot, and what the bot sends is printed, one line
or more for each message, after a banner. At the end of the input the bot is shut down.
-/

namespace ChatBot

/-- A bot on a console. -/
structure Console where
  /-- The bot at work. -/
  stage : Stage
  /-- How many of the lines that were printed were read. -/
  read : Nat := 0

/-- What a run that failed says at its end. -/
def Error.complaint (e : Error) : String := "Error: " ++ e.message

namespace Console

/-- Who types. -/
def user : String := "local"

/-- Nobody but the user is around, and a console takes everything. -/
def company : Company := {}

/-- Lets everything run that can. -/
def settle (c : Console) : Console := { c with stage := c.stage.settle company.program }

/-- A bot on a console, with the commands that come with every bot. The path of a configuration may
be missing; `file` tells what is there, which may be nothing. -/
def start (file : Option (Option String)) : Except Error Console := do
  let config ← file.elim (.ok {}) Config.ofFile
  let bot ← (Bot.ofConfig config).mapError .bot
  match Stage.loadPlugins (Stage.ofBot bot) with
  | (.error e, _) => throw (.bot e)
  | (.ok (), stage) => return settle { stage := Stage.startTicker (Stage.startSender stage).2 }

/-- What is printed first. -/
def banner (c : Console) : String :=
  let config := c.stage.bot.config
  config.nick ++ " is listening. Commands start with \"" ++ config.opening
    ++ "\". Press Ctrl+C to quit."

/-- How a message is printed. -/
def printedForm (m : Message) : String := m.sender ++ ": " ++ m.text

/-- Everything that was printed: the banner, and the messages of the bot. -/
def printed (c : Console) : List String :=
  c.banner :: c.stage.bot.handed.map fun h => printedForm h.message

/-- The lines that were printed. -/
def lines (c : Console) : List String := c.printed.flatMap Text.lines

/-- The lines that were not read yet. -/
def unread (c : Console) : List String := c.lines.drop c.read

/-- The message that a typed line is. -/
def messageOf (line : String) : Message where
  body := .text line
  sender := user
  address := .external user

/-- The bot gets a line that was typed. -/
def hear (c : Console) (line : String) : Console :=
  settle { c with stage := (Stage.receive c.stage (messageOf line)).2 }

/-- Someone types a text, and then the end of a line. -/
def type (c : Console) (text : String) : Console := (Text.lines text).foldl hear c

/-- Lets time pass. -/
def advance (c : Console) (span : Nat) : Console :=
  { c with stage := c.stage.advance company.program span }

/-- Reads some lines, and lets time pass until there are as many. -/
def take (c : Console) (count : Nat) : List String × Console :=
  let enough (s : Stage) : Bool := decide (c.read + count ≤ (lines { c with stage := s }).length)
  let c := { c with stage := (c.stage.await company.program enough none).2 }
  (c.unread.take count, { c with read := min (c.read + count) c.lines.length })

/-- The end of the input. -/
def finish (c : Console) : Console := settle { c with stage := Stage.shutdown c.stage company }

end Console

end ChatBot
