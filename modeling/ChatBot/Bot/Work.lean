import ChatBot.Bot.RoundTrip
import ChatBot.Command.Echo
import ChatBot.Command.Eval
import ChatBot.Command.Help

/-!
# Commands at work

How a command gets from a message to its result, with a pause wherever it takes time, and what is
made of the result: a reply in the outbox, which goes back to where the message came from.
-/

namespace ChatBot

/-- How a turn of a job ends. -/
inductive Turn where
  /-- There is more to do. -/
  | waits (job : Job)
  /-- There is a result. -/
  | ends (result : Except CommandError String)

/-- What the ids of evaluations are minted from. -/
def evaluationOrigin : String := "evaluator"

/-- What a command replies with. To someone outside, an empty reply is a failure. -/
def replyBody (name : String) (request : Message) : Except CommandError String → Body
  | .ok text =>
    if Text.isBlank text && !request.isInternal then
      .error (name ++ " returned an empty string.")
    else .text text
  | .error e => .error e.message

namespace Stage

/-- Goes on with a course of action. -/
def follow (s : Stage) : Course → Turn
  | .done reply => .ends reply
  | .wait span next => if span = 0 then follow s next else .waits (.paused (s.now + span) next)

/-- Goes on with a dialogue: it is over, or a command is given out and waited for. Time may have run
out by then. -/
def converse (s : Stage) (session : Session) : Dialogue String → Turn × Stage
  | .done text => (.ends (.ok text), s)
  | .fail e => (.ends (.error (.eval e)), s)
  | .ask command resume =>
    match Stage.ask s session command with
    | (.error e, s) => (.ends (.error (.eval (.event e))), s)
    | (.ok listener, s) =>
      if session.deadline ≤ s.now then
        (.ends (.error (.eval (.timeout command))), Stage.closeInbox s listener session.address)
      else (.waits (.asking session listener command resume), s)

/-- An evaluation on behalf of `origin`, with its own id. -/
def openSession (s : Stage) (origin : Message) (deadline : Nat) : Session × Stage :=
  let (serial, s) := Stage.mint s
  (⟨origin, ⟨evaluationOrigin, serial⟩, deadline⟩, s)

/-- The eval command. -/
def runEval (s : Stage) (m : Message) : Turn × Stage :=
  match Eval.request m.text with
  | .error e => (.ends (.error e), s)
  | .ok (.show text) => (.ends (.ok text), s)
  | .ok (.evaluate expression seconds) =>
    let limit := seconds.elim s.bot.config.eval.timeLimit (· * 1000)
    let (session, s) := Stage.openSession s m (deadlineAfter s.now limit)
    Stage.converse s session (s.bot.config.language.evaluate expression)

/-- Starts a command. -/
def runCommand (s : Stage) (m : Message) : Command → Turn × Stage
  | .echo => (.ends (Echo.reply m.text), s)
  | .help => (.ends (Help.reply s.bot.registry s.bot.config.opening m.text), s)
  | .eval => Stage.runEval s m
  | .custom start => (Stage.follow s (start m), s)

/-- One turn of a job. A reply counts even if time has run out. -/
def pollJob (s : Stage) : Job → Turn × Stage
  | .fresh command request => Stage.runCommand s request command
  | .paused time course =>
    if time ≤ s.now then (Stage.follow s course, s) else (.waits (.paused time course), s)
  | .talking session dialogue => Stage.converse s session dialogue
  | .asking session listener command resume =>
    match Stage.reply? s listener with
    | some reply =>
      let s := Stage.closeInbox s listener session.address
      match replyText command reply with
      | .ok text => Stage.converse s session (resume text)
      | .error e => (.ends (.error (.eval e)), s)
    | none =>
      if session.deadline ≤ s.now then
        (.ends (.error (.eval (.timeout command))), Stage.closeInbox s listener session.address)
      else (.waits (.asking session listener command resume), s)

/-- Whether a job can go on before its time comes. -/
def wakesJob (s : Stage) : Job → Bool
  | .fresh _ _ | .talking _ _ => true
  | .paused _ _ => false
  | .asking _ listener _ _ => (Stage.reply? s listener).isSome

/-- A job that is dropped closes its inbox. -/
def dropJob (s : Stage) : Job → Stage
  | .asking session listener _ _ => Stage.closeInbox s listener session.address
  | _ => s

/-- Hands the result of a job to the one who gets it. -/
def report (s : Stage) (result : Except CommandError String) : Recipient → Stage
  | .asker name request =>
    Stage.post s (request.respond (replyBody name request result) name)
  | .attendant number => Stage.conclude s number (.reply result)

end Stage

/-- The time at which a job goes on in any case. -/
def Job.due : Job → Option Nat
  | .fresh _ _ | .talking _ _ => none
  | .paused time _ => some time
  | .asking session _ _ _ => some session.deadline

end ChatBot
