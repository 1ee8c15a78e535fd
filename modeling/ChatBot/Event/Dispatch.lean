import ChatBot.Event.Host

/-!
# Dispatch

Firing an event goes through the callbacks that were active at that moment, in the order of their
subscription. Each sees the payload that was fired: its prefilter decides whether its target runs,
and its preprocessor adapts a copy for the target. What prefilters and preprocessors do may
change the world `σ`, the host included; that concerns later fires only.
-/

namespace ChatBot

/-- What the functions behind the identities `κ` do to a world `σ`. -/
structure Conduct (κ σ : Type) where
  /-- The verdict of a prefilter on a payload. -/
  passes : κ → Payload → σ → Bool × σ
  /-- What a preprocessor makes of a payload. -/
  adapt : κ → Payload → σ → Payload × σ

/-- A target that is to run, with the payload it gets. -/
structure Launch (κ : Type) where
  /-- The target. -/
  target : κ
  /-- What it is given. -/
  payload : Payload

namespace Conduct

variable {κ σ : Type}

/-- One callback's turn. -/
def consider (d : Conduct κ σ) (payload : Payload) (c : Callback κ) (w : σ) :
    Option (Launch κ) × σ :=
  let (passed, w) := c.prefilter.elim (true, w) fun p => d.passes p.ident payload w
  if passed then
    let (given, w) := c.preprocessor.elim (payload, w) fun p => d.adapt p.ident payload w
    (some ⟨c.target.ident, given⟩, w)
  else (none, w)

/-- The turns of several callbacks, one after the other. -/
def dispatch (d : Conduct κ σ) (payload : Payload) : List (Callback κ) → σ → List (Launch κ) × σ
  | [], w => ([], w)
  | c :: cs, w =>
    let (launch?, w) := d.consider payload c w
    let (launches, w) := d.dispatch payload cs w
    (launch?.toList ++ launches, w)

/-- Fires an event on a host: the answer is the targets that are to run. A fire that is refused runs
nothing. Where no tasks can run, nothing is dispatched. -/
def fire (d : Conduct κ σ) (canRun : Bool) (h : Host κ) (event : String) (payload : Payload)
    (w : σ) : Except EventError (List (Launch κ)) × σ :=
  match h.listeners event payload with
  | .error e => (.error e, w)
  | .ok callbacks =>
    if canRun then
      let (launches, w) := d.dispatch payload callbacks w
      (.ok launches, w)
    else (.error (.runtimeUnavailable event), w)

end Conduct

end ChatBot
