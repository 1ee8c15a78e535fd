import ChatBot.Command.Error
import ChatBot.Message

/-!
# Commands

What a bot can be told to do. Three commands come with the bot; others are given by what they do
with a message.
-/

namespace ChatBot

/-- What a command does with a message: it may take its time, and ends with a reply. -/
inductive Course where
  /-- The command has ended. -/
  | done (reply : Except CommandError String)
  /-- The command goes on after some milliseconds. -/
  | wait (span : Nat) (next : Course)

/-- A command. -/
inductive Command where
  /-- Sends its words back. -/
  | echo
  /-- Lists or describes commands. -/
  | help
  /-- Evaluates an expression. -/
  | eval
  /-- Any other command. It sees the message without the part that invoked it. -/
  | custom (start : Message → Course)

end ChatBot
