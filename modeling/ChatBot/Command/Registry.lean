import ChatBot.Command.Error
import ChatBot.Directory
import ChatBot.Event.Callback

/-!
# The command registry

Which commands a bot answers to, and who registered each of them. A name belongs to the one who
registers it first, until it is unregistered.
-/

namespace ChatBot

/-- What is known about a command. -/
structure CommandInfo where
  /-- How the command is called. -/
  name : String
  /-- Who registered it. -/
  owner : String
  /-- What it does. -/
  description : String
  deriving DecidableEq, Repr

/-- A command with the callback that serves it, if there is one. -/
structure Registration (κ : Type) where
  /-- What is known about the command. -/
  info : CommandInfo
  /-- Who answers it. -/
  callback : Option (Callback κ) := none

/-- All commands by name. -/
abbrev Registry (κ : Type) := Directory (Registration κ)

/-- A command name is one word. -/
def isCommandName (name : String) : Bool := !name.isEmpty && !name.toList.any Text.isSpace

/-- What is wrong with other names. -/
def notOneWord : String := "must be a single non-empty word"

namespace Registry

variable {κ : Type}

/-- Registers `name` unless it is taken, and says whether it was free. -/
def register (r : Registry κ) (owner name description : String) :
    Except CommandError (Bool × Registry κ) :=
  if !isCommandName name then .error (.invalidName ⟨name, notOneWord⟩)
  else if r.contains name then .ok (false, r)
  else .ok (true, r.set name { info := ⟨name, owner, description⟩ })

/-- Puts down who answers `name`. -/
def attach (r : Registry κ) (name : String) (callback : Callback κ) : Registry κ :=
  match r.get? name with
  | none => r
  | some registration => r.set name { registration with callback := some callback }

/-- Takes `name` out, and hands back what was registered. -/
def unregister (r : Registry κ) (name : String) : Option (Registration κ) × Registry κ :=
  (r.get? name, r.erase name)

/-- What is known about `name`. -/
def info? (r : Registry κ) (name : String) : Option CommandInfo := (r.get? name).map (·.info)

/-- All commands, in increasing order of their names. -/
def list (r : Registry κ) : List CommandInfo := r.values.map (·.info)

end Registry

end ChatBot
