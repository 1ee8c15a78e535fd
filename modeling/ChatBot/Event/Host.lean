import ChatBot.Directory
import ChatBot.Event.Callback

/-!
# The event host

The registry of events. An event has a schema and a list of callbacks in the order in which they
were subscribed. Callbacks may come before their event: they are parked until it is created, and
parked again when it is destroyed.
-/

namespace ChatBot

/-- An event that exists. -/
structure Event (κ : Type) where
  /-- The parameters of the event. -/
  schema : Schema
  /-- Who listens, in the order of subscription. -/
  callbacks : List (Callback κ)

/-- All events, and the callbacks that wait for an event to be created. -/
structure Host (κ : Type) where
  /-- The events that exist. -/
  events : Directory (Event κ) := {}
  /-- The callbacks parked for events that do not exist. -/
  pending : Directory (List (Callback κ)) := {}

namespace Host

variable {κ : Type}

/-- A host without events. -/
def empty : Host κ := {}

instance : Inhabited (Host κ) := ⟨empty⟩

/-- The callbacks parked for `name`. -/
def parked (h : Host κ) (name : String) : List (Callback κ) := (h.pending.get? name).getD []

/-- The active callbacks of `name`. -/
def active (h : Host κ) (name : String) : List (Callback κ) :=
  (h.events.get? name).elim [] (·.callbacks)

/-- The schema of the event `name`. -/
def schema? (h : Host κ) (name : String) : Option Schema := (h.events.get? name).map (·.schema)

/-- Whether the event `name` exists. -/
def contains (h : Host κ) (name : String) : Bool := h.events.contains name

/-- The names of all events, in increasing order. -/
def eventNames (h : Host κ) : List String := h.events.names

/-- Creates the event `name` and activates the callbacks parked for it. -/
def create (h : Host κ) (name : String) (schema : Schema) : Except EventError (Host κ) := do
  schema.validate name
  if h.contains name then throw (.alreadyExists name)
  (h.parked name).forM (·.check name schema)
  return { events := h.events.set name ⟨schema, h.parked name⟩, pending := h.pending.erase name }

/-- Destroys the event `name` and parks its callbacks. Without such an event, nothing happens. -/
def destroy (h : Host κ) (name : String) : Host κ :=
  match h.events.get? name with
  | none => h
  | some event =>
    { events := h.events.erase name
      pending := h.pending.set name (h.parked name ++ event.callbacks) }

/-- Adds a callback to the event `name`, or parks it where there is no such event. -/
def subscribe (h : Host κ) (name : String) (c : Callback κ) : Except EventError (Host κ) :=
  match h.events.get? name with
  | none => .ok { h with pending := h.pending.set name (h.parked name ++ [c]) }
  | some event => do
    c.check name event.schema
    return { h with events := h.events.set name { event with callbacks := event.callbacks ++ [c] } }

/-- Removes the first callback of `name` that is the same as `c`, if there is one. -/
def unsubscribe [DecidableEq κ] (h : Host κ) (name : String) (c : Callback κ) : Host κ :=
  match h.events.get? name with
  | some event =>
    { h with events := h.events.set name { event with callbacks := event.callbacks.erase c } }
  | none =>
    match h.pending.get? name with
    | some waiting => { h with pending := h.pending.set name (waiting.erase c) }
    | none => h

/-- The callbacks that a fire of `name` with `payload` has to consider: the active ones, provided
that the payload has exactly the parameters of the event. -/
def listeners (h : Host κ) (name : String) (payload : Payload) :
    Except EventError (List (Callback κ)) :=
  match h.events.get? name with
  | none => .error (.unknownEvent name)
  | some event =>
    let missing := event.schema.missing payload
    let extra := event.schema.extra payload
    if missing = [] ∧ extra = [] then .ok event.callbacks
    else .error (.payloadMismatch name missing extra)

end Host

/-- A change of a host. -/
inductive HostEdit (κ : Type) where
  /-- Creates an event. -/
  | create (event : String) (schema : Schema)
  /-- Destroys an event. -/
  | destroy (event : String)
  /-- Adds a callback. -/
  | subscribe (event : String) (callback : Callback κ)
  /-- Removes a callback. -/
  | unsubscribe (event : String) (callback : Callback κ)

namespace Host

variable {κ : Type} [DecidableEq κ]

/-- Carries out a change, or says why it is refused. -/
def edit (h : Host κ) : HostEdit κ → Except EventError (Host κ)
  | .create event schema => h.create event schema
  | .destroy event => .ok (h.destroy event)
  | .subscribe event callback => h.subscribe event callback
  | .unsubscribe event callback => .ok (h.unsubscribe event callback)

/-- The host after a change; a refused change leaves it as it was. -/
def afterEdit (h : Host κ) (e : HostEdit κ) : Host κ := (h.edit e).toOption.getD h

end Host

end ChatBot
