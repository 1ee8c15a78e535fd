import ChatBot.Event.Payload
import ChatBot.Text.Quoted

/-!
# Schemas

A schema names the parameters of an event, or of a function that listens to events. The order of
the names is kept for showing them and means nothing else.
-/

namespace ChatBot

/-- The parameter names of an event or of a function. -/
structure Schema where
  /-- The names, in the order of their declaration. -/
  params : List String
  deriving DecidableEq, Repr, Inhabited

/-- What goes wrong around events. -/
inductive EventError where
  /-- There is no such event. -/
  | unknownEvent (event : String)
  /-- The payload lacks parameters of the event, or has others. -/
  | payloadMismatch (event : String) (missing extra : List String)
  /-- A part of a callback declares other parameters than the event has. -/
  | signature (event part : String) (expected got : Schema)
  /-- A parameter has a reserved name. -/
  | reservedParameter (event param : String)
  /-- A parameter is declared twice. -/
  | repeatedParameter (event param : String)
  /-- There is such an event already. -/
  | alreadyExists (event : String)
  /-- There is nothing to run callbacks on. -/
  | runtimeUnavailable (event : String)
  deriving DecidableEq, Repr

namespace Schema

/-- Names that start like this are the host's own. -/
def reservedStart : Char := '_'

/-- The parameter of events that carry a chat message. -/
def ofMessage : Schema := ⟨[Payload.messageKey]⟩

/-- The schema in words. -/
def describe (s : Schema) : String := "\x7b" ++ String.intercalate ", " s.params ++ "\x7d"

/-- Two schemas fit when they have the same names, and as many of them. -/
def fits (s t : Schema) : Bool :=
  s.params.all (t.params.contains ·) && t.params.all (s.params.contains ·)
    && s.params.length == t.params.length

/-- Refuses reserved names and names that are in `seen` or come twice. -/
def validateFrom (event : String) (seen : List String) : List String → Except EventError Unit
  | [] => .ok ()
  | p :: ps =>
    if p.toList.head? = some reservedStart then .error (.reservedParameter event p)
    else if p ∈ seen then .error (.repeatedParameter event p)
    else validateFrom event (p :: seen) ps

/-- The schema of an event declares no reserved name and no name twice. -/
def validate (s : Schema) (event : String) : Except EventError Unit :=
  validateFrom event [] s.params

/-- The names that a payload lacks, in the order of the schema. -/
def missing (s : Schema) (p : Payload) : List String := s.params.filter (!p.keys.contains ·)

/-- The names that a payload has too many, in increasing order. -/
def extra (s : Schema) (p : Payload) : List String :=
  (p.keys.filter (!s.params.contains ·)).mergeSort (fun a b => decide (a ≤ b))

end Schema

namespace EventError

/-- Why nothing can be dispatched where no tasks run. -/
def noRuntime : String :=
  "there is no reactor running, must be called from the context of a Tokio 1.x runtime"

/-- The wording of what went wrong. -/
def message : EventError → String
  | .unknownEvent event => "No such event \"" ++ event ++ "\""
  | .payloadMismatch event missing extra =>
    "fire(" ++ event ++ ") error: missing keyword arguments " ++ Text.quotedList missing
      ++ ", superfluous keyword arguments " ++ Text.quotedList extra
  | .signature event part expected got =>
    "Event handler " ++ part ++ " parameter mismatch on \"" ++ event ++ "\": expected "
      ++ expected.describe ++ ", got " ++ got.describe
  | .reservedParameter event param =>
    "Invalid schema for event \"" ++ event ++ "\": parameter \"" ++ param
      ++ "\" must not start with \"" ++ Schema.reservedStart.toString ++ "\""
  | .repeatedParameter event param =>
    "Invalid schema for event \"" ++ event ++ "\": parameter \"" ++ param
      ++ "\" is declared twice"
  | .alreadyExists event => "Event already registered: " ++ event
  | .runtimeUnavailable event =>
    "Cannot dispatch \"" ++ event ++ "\" outside a tokio runtime: " ++ noRuntime

end EventError

end ChatBot
