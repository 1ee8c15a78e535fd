import ChatBot.Bot.Firing

/-!
# The ticker

A task that fires an event at even intervals, from its start until it is stopped.
-/

namespace ChatBot

/-- What a tick tells: the time in seconds. -/
def tickPayload (now : Nat) : Payload := [(CoreEvent.timeKey, .number ⟨now, 3⟩)]

namespace Stage

/-- Starts the ticker, unless it is started already or there is no interval. -/
def startTicker (s : Stage) : Stage :=
  if s.bot.config.tickInterval = 0 || s.bot.ticker.running then s
  else
    let (id, s) := s.spawn (.ticker none)
    s.modify fun b => { b with ticker := ⟨true, some id⟩ }

/-- Stops the ticker. -/
def stopTicker (s : Stage) : Stage :=
  let stopped := s.modify fun b => { b with ticker := {} }
  s.bot.ticker.task.elim stopped stopped.abort

/-- Fires a tick. Where it cannot be fired, nobody listens. -/
def tick (s : Stage) : Stage :=
  match Stage.fireTracked s .onTimerTick (tickPayload s.now) with
  | .ok s => s
  | .error _ => s

/-- One turn of the ticker, which waits for the time `next`. -/
def pollTicker (s : Stage) : Option Nat → Option (Option Nat) × Stage
  | none =>
    (if s.bot.ticker.running then some (some (s.now + s.bot.config.tickInterval)) else none, s)
  | some next =>
    if next ≤ s.now then
      let s := Stage.tick s
      (if s.bot.ticker.running then some (some (next + s.bot.config.tickInterval)) else none, s)
    else (some (some next), s)

end Stage

end ChatBot
