/-!
# Chat messages

A message is what travels over the events of the bot. It is addressed to a channel outside, or to a
correlation id, which leads back to the one who asked and never leaves the bot.
-/

namespace ChatBot

/-- The address of one who waits for an answer. No two minted ids have the same serial number. -/
structure CorrelationId where
  /-- Who minted the id. -/
  origin : String
  /-- What tells ids apart. -/
  serial : Nat
  deriving DecidableEq, Repr, Inhabited

/-- Where a message goes. -/
inductive Address where
  /-- Nowhere yet. -/
  | unset
  /-- A channel or user that a transport knows. -/
  | external (channel : String)
  /-- One who waits inside the bot. -/
  | internal (id : CorrelationId)
  deriving DecidableEq, Repr, Inhabited

namespace Address

/-- Whether the address stays inside the bot. -/
def isInternal : Address → Bool
  | .internal _ => true
  | _ => false

/-- Whether the address leads nowhere. The empty channel is no channel. -/
def isUnset : Address → Bool
  | .unset => true
  | .external channel => channel.isEmpty
  | .internal _ => false

/-- The address in words, with serial numbers shown by `shown`. -/
def describe (shown : Nat → String) : Address → String
  | .unset => "<unset>"
  | .external channel => channel
  | .internal id => "internal(" ++ id.origin ++ ":" ++ shown id.serial ++ ")"

end Address

/-- What a message says. -/
inductive Body where
  /-- Plain text. -/
  | text (said : String)
  /-- Why something failed. -/
  | error (said : String)
  deriving DecidableEq, Repr

instance : Inhabited Body := ⟨.text ""⟩

/-- The words of a body of either kind. -/
def Body.words : Body → String
  | .text said => said
  | .error said => said

/-- A chat message. -/
structure Message where
  /-- What it says. -/
  body : Body := .text ""
  /-- Who sent it. -/
  sender : String := ""
  /-- Who it is for. -/
  recipient : String := ""
  /-- Where it goes. -/
  address : Address := .unset
  /-- Whether it belongs to a group conversation. -/
  isInGroup : Bool := true
  /-- Whether everyone in the channel is meant. -/
  sendToAll : Bool := false
  /-- The name the sender goes by. -/
  nickname : Option String := none
  deriving DecidableEq, Repr, Inhabited

namespace Message

/-- The words of the message. -/
def text (m : Message) : String := m.body.words

/-- Whether the message tells of a failure. -/
def isError (m : Message) : Bool :=
  match m.body with
  | .error _ => true
  | .text _ => false

/-- Whether the message stays inside the bot. -/
def isInternal (m : Message) : Bool := m.address.isInternal

/-- The message with other words. -/
def withText (m : Message) (text : String) : Message := { m with body := .text text }

/-- The message whose sender goes by another name. -/
def withNickname (m : Message) (name : Option String) : Message := { m with nickname := name }

/-- A reply by `sender`, which goes back to where the message came from. -/
def respond (m : Message) (body : Body) (sender : String) : Message where
  body := body
  sender := sender
  recipient := m.sender
  address := m.address
  isInGroup := m.isInGroup
  sendToAll := m.sendToAll
  nickname := none

end Message

end ChatBot
