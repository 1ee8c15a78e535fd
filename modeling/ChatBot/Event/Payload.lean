import ChatBot.Message

/-!
# Payloads

What an event carries: one value under each of its parameters.
-/

namespace ChatBot

/-- A decimal number, `coefficient / 10 ^ places`. -/
structure Decimal where
  /-- The digits and the sign. -/
  coefficient : Int
  /-- How many of the digits stand after the point. -/
  places : Nat
  deriving DecidableEq, Repr

/-- One value of a payload. -/
inductive Value where
  /-- A number. -/
  | number (n : Decimal)
  /-- A text. -/
  | text (s : String)
  /-- A chat message. -/
  | message (m : Message)
  deriving DecidableEq, Repr

/-- Values under parameter names, no name twice. -/
abbrev Payload := List (String × Value)

namespace Payload

/-- The value under `key`. -/
def get? (p : Payload) (key : String) : Option Value := p.lookup key

/-- The parameter names of a payload. -/
def keys (p : Payload) : List String := p.map (·.1)

/-- The payload without what is under `key`. -/
def drop (p : Payload) (key : String) : Payload := p.filter (·.1 != key)

/-- The payload with `value` under `key`. -/
def put (p : Payload) (key : String) (value : Value) : Payload := (key, value) :: drop p key

/-- The parameter that carries a chat message. -/
def messageKey : String := "message"

/-- The payload that carries a chat message. -/
def ofMessage (m : Message) : Payload := [(messageKey, .message m)]

/-- The chat message that a payload carries. -/
def message? (p : Payload) : Option Message :=
  match get? p messageKey with
  | some (.message m) => some m
  | _ => none

@[simp] theorem message?_ofMessage (m : Message) : message? (ofMessage m) = some m := by
  simp [message?, ofMessage, get?, messageKey]

end Payload

end ChatBot
