import ChatBot.Event.Schema

/-!
# Callbacks

A callback is what listens to an event: a target, which does the work, an optional prefilter, which
decides whether the target runs at all, and an optional preprocessor, which adapts the payload
for it. The parts are known by identities of a type `κ`; what the function behind an identity does
is said where events are dispatched.
-/

namespace ChatBot

/-- A function that listens: which one it is, and the parameters it declares. -/
structure Part (κ : Type) where
  /-- The parameters the function declares. -/
  schema : Schema
  /-- Which function it is. -/
  ident : κ
  deriving DecidableEq, Repr

/-- A target with its prefilter and its preprocessor. Two callbacks are the same when all three
parts are. -/
structure Callback (κ : Type) where
  /-- Does the work, on a task of its own. -/
  target : Part κ
  /-- Decides whether the target runs. -/
  prefilter : Option (Part κ) := none
  /-- Adapts the payload for the target. -/
  preprocessor : Option (Part κ) := none
  deriving DecidableEq, Repr

namespace Callback

variable {κ : Type}

/-- The parts of a callback with their names, in the order in which they are checked. -/
def parts (c : Callback κ) : List (String × Part κ) :=
  ("target", c.target)
    :: (c.prefilter.toList.map fun p => ("prefilter", p))
    ++ (c.preprocessor.toList.map fun p => ("preprocessor", p))

/-- The parts of a callback that do not fit `schema`. -/
def misfits (c : Callback κ) (schema : Schema) : List (String × Part κ) :=
  c.parts.filter fun p => !p.2.schema.fits schema

/-- Refuses a callback with a part that does not fit the schema of an event; the first such part
is named. -/
def check (c : Callback κ) (event : String) (schema : Schema) : Except EventError Unit :=
  match c.misfits schema with
  | [] => .ok ()
  | (part, p) :: _ => .error (.signature event part schema p.schema)

/-- An optional part in words. -/
def describePart (kind : String) : Option (Part κ) → String
  | none => "None"
  | some p => "Some(" ++ kind ++ p.schema.describe ++ ")"

/-- The callback in words. -/
def describe (c : Callback κ) : String :=
  "Callback \x7b target: Target" ++ c.target.schema.describe
    ++ ", prefilter: " ++ describePart "Prefilter" c.prefilter
    ++ ", preprocessor: " ++ describePart "Preprocessor" c.preprocessor ++ " \x7d"

end Callback

end ChatBot
