import ChatBot.Bot.Sender
import ChatBot.Bot.Ticker
import ChatBot.Bot.Work

/-!
# What a bot's tasks do

The program of a bot: one turn of each kind of activity, and what each of them waits for.
-/

namespace ChatBot

namespace Stage

/-- A guest goes on with its script; the answer is where it pauses. -/
def perform : Script → Stage → Option Activity × Stage
  | .done, s => (none, s)
  | .wait span next, s =>
    if span = 0 then perform next s else (some (.script (s.now + span) next), s)
  | .note label payload next, s =>
    perform next (s.modify fun b => { b with journal := ⟨label, payload⟩ :: b.journal })
  | .fire event payload next, s =>
    match Stage.fire s event payload with
    | .ok (_, s) => perform next s
    | .error _ => perform next s
  | .mint origin next, s =>
    let (serial, s) := Stage.mint s
    perform (next ⟨origin, serial⟩) s

/-- One turn of a job, with its result reported. -/
def work (s : Stage) (recipient : Recipient) (job : Job) : Option Activity × Stage :=
  match Stage.pollJob s job with
  | (.waits job, s) => (some (.job recipient job), s)
  | (.ends result, s) => (none, Stage.report s result recipient)

/-- A listener that was dispatched starts its work. -/
def launch (s : Stage) (company : Company) (payload : Payload) :
    Handler → Option Activity × Stage
  | .inbox listener _ =>
    (none, (Payload.message? payload).elim s (Stage.receiveReply s listener))
  | .command serial =>
    match s.bot.installation? serial, Payload.message? payload with
    | some i, some m => Stage.work s (.asker i.name m) (.fresh i.command m)
    | _, _ => (none, s)
  | .guest name => Stage.perform (company.guest name payload s.bot.journal) s

/-- One turn of an activity. -/
def poll (company : Company) (a : Activity) (s : Stage) : Option Activity × Stage :=
  match a with
  | .launched handler payload => Stage.launch s company payload handler
  | .script time script =>
    if time ≤ s.now then Stage.perform script s else (some (.script time script), s)
  | .job recipient j => Stage.work s recipient j
  | .sender number state =>
    let (state, s) := Stage.pollSender s company number state
    (state.map (.sender number), s)
  | .ticker next =>
    let (next, s) := Stage.pollTicker s next
    (next.map .ticker, s)

/-- Whether an activity can go on before its time comes. -/
def wakes (s : Stage) : Activity → Bool
  | .launched _ _ => true
  | .script _ _ => false
  | .job _ j => Stage.wakesJob s j
  | .sender _ state => Stage.wakesSender s state
  | .ticker next => next.isNone

/-- Drops an activity where it stands. -/
def drop (s : Stage) : Activity → Stage
  | .job _ j => Stage.dropJob s j
  | .sender _ state => Stage.dropSender s state
  | _ => s

end Stage

/-- The time at which an activity goes on in any case. -/
def Activity.due : Activity → Option Nat
  | .launched _ _ => none
  | .script time _ => some time
  | .job _ j => j.due
  | .sender _ (.sending _ _ time) => some time
  | .sender _ _ => none
  | .ticker next => next

/-- What the tasks of a bot do. -/
def Company.program (company : Company) : Program Bot Activity where
  poll := Stage.poll company
  wakes := Stage.wakes
  due := Activity.due

end ChatBot
