import Mathlib.Logic.Function.Basic
import Mathlib.Logic.Relation
import ChatBot.Bot.Lifecycle
import ChatBot.Proofs.Evaluation.Listeners
import ChatBot.Proofs.Event.Fire
import ChatBot.Proofs.Node.Parsing

/-!
# Evaluations that share a host

Any number of evaluations at work on one stage, with everything around them that can get in between:
others who change the host and fire what they like, tasks that are spawned now and polled later, a
clock that goes on, evaluations that are dropped.  A fire takes two kinds of steps: who listens is
read off the host at once, and each of these callbacks has its turn later, whatever has happened to
the host since.

The steps are made of what the bot runs.

* `Phase.Proceeds` is what an evaluation does next, `Ensemble.Step` what anybody does next, and
  `Ensemble.Run` reaches the states that steps lead to.
-/

namespace ChatBot

/-! ### One evaluation -/

/-- Where an evaluation stands. -/
inductive Phase where
  /-- In no round trip; the dialogue is what is left to do. -/
  | talking (dialogue : Dialogue String)
  /-- There is an inbox for a command that is still to be published. -/
  | subscribed (listener : Nat) (command : String) (resume : String → Dialogue String)
  /-- The command is published. -/
  | waiting (listener : Nat) (command : String) (resume : String → Dialogue String)
  /-- The waiting is over and the inbox is still to be closed.  Nothing comes after it where the
  evaluation was dropped. -/
  | leaving (listener : Nat) (next : Option (Dialogue String))
  /-- Dropped. -/
  | gone

/-- The inbox of the round trip that an evaluation is in. -/
def Phase.listener? : Phase → Option Nat
  | .talking _ | .gone => none
  | .subscribed listener _ _ | .waiting listener _ _ | .leaving listener _ => some listener

/-- An evaluation at work, with the language in which the expression `text` is written. -/
structure Evaluation where
  session : Session
  language : Language
  text : String
  phase : Phase

/-- What holds of evaluations still does when one of them is exchanged, if it holds of that one. -/
theorem Evaluation.forall_update {evaluations : CorrelationId → Option Evaluation}
    {Q : CorrelationId → Evaluation → Prop} {a : CorrelationId} {e : Evaluation} (he : Q a e)
    (h : ∀ b e', evaluations b = some e' → b ≠ a → Q b e') :
    ∀ b e', Function.update evaluations a (some e) b = some e' → Q b e' := by
  rw [Function.forall_update_iff evaluations fun b o => ∀ e', o = some e' → Q b e']
  refine ⟨fun e' he' => ?_, fun b hb e' he' => h b e' he' hb⟩
  cases he'
  exact he

/-- What is worth remembering about a run. -/
inductive Occurrence where
  /-- A payload was fired; as far as it is meant for an evaluation, it answers the command that
  was published by the round trip `answered`. -/
  | fired (fire : Nat) (event : String) (payload : Payload) (answered : Option Nat)
  /-- A message that was fired was put into an inbox. -/
  | taken (fire : Nat) (listener : Nat) (reply : Message)
  /-- A round trip began. -/
  | opened (address : CorrelationId) (listener : Nat)
  /-- A round trip published its command. -/
  | published (address : CorrelationId) (listener : Nat) (command : String)
  /-- A round trip had its command answered. -/
  | returned (address : CorrelationId) (listener : Nat) (reply : Message)

/-- What follows a reply. -/
def Dialogue.afterReply (command : String) (resume : String → Dialogue String) (reply : Message) :
    Dialogue String :=
  match replyText command reply with
  | .ok text => resume text
  | .error e => .fail e

/-- What a step of an evaluation leads to, and what there is to remember of it. -/
structure Move where
  stage : Stage
  phase : Phase
  occurrences : List Occurrence

/-- What an evaluation does next. -/
inductive Phase.Proceeds (s : Stage) (session : Session) : Phase → Move → Prop where
  | refuse {command : String} {resume : String → Dialogue String} {error : EventError}
      (ho : s.openInbox session.address = .error error) :
      Proceeds s session (.talking (.ask command resume)) ⟨s, .talking (.fail (.event error)), []⟩
  | subscribe {command : String} {resume : String → Dialogue String} {listener : Nat} {s' : Stage}
      (ho : s.openInbox session.address = .ok (listener, s')) :
      Proceeds s session (.talking (.ask command resume))
        ⟨s', .subscribed listener command resume, [.opened session.address listener]⟩
  | lose {listener : Nat} {command : String} {resume : String → Dialogue String}
      {error : EventError}
      (hf : s.fireTracked .onMessage (Payload.ofMessage (session.request command)) = .error error) :
      Proceeds s session (.subscribed listener command resume)
        ⟨s, .leaving listener (some (.fail (.event error))), []⟩
  | publish {listener : Nat} {command : String} {resume : String → Dialogue String} {s' : Stage}
      (hf : s.fireTracked .onMessage (Payload.ofMessage (session.request command)) = .ok s') :
      Proceeds s session (.subscribed listener command resume)
        ⟨s', .waiting listener command resume, [.published session.address listener command]⟩
  | receive {listener : Nat} {command : String} {resume : String → Dialogue String}
      {reply : Message} (hr : s.reply? listener = some reply) :
      Proceeds s session (.waiting listener command resume)
        ⟨s, .leaving listener (some (.afterReply command resume reply)),
          [.returned session.address listener reply]⟩
  | giveUp {listener : Nat} {command : String} {resume : String → Dialogue String}
      (hr : s.reply? listener = none) (hd : session.deadline ≤ s.now) :
      Proceeds s session (.waiting listener command resume)
        ⟨s, .leaving listener (some (.fail (.timeout command))), []⟩
  | close {listener : Nat} {next : Option (Dialogue String)} :
      Proceeds s session (.leaving listener next)
        ⟨s.closeInbox listener session.address, next.elim .gone .talking, []⟩

/-- Where a dropped evaluation stands.  It is not dropped in the middle of its work. -/
inductive Phase.Drops : Phase → Phase → Prop where
  | talking (dialogue : Dialogue String) : Drops (.talking dialogue) .gone
  | waiting (listener : Nat) (command : String) (resume : String → Dialogue String) :
      Drops (.waiting listener command resume) (.leaving listener none)

/-! ### All of them -/

/-- A fire, by its number, and the callbacks whose turn is still to come. -/
structure Dispatch where
  fire : Nat
  payload : Payload
  rest : List (Callback Handler)

/-- Evaluations, by their addresses, that share a stage.  Of fires there is how many there have
been, which of them are under way, and which of them spawned a task; the history has the latest
first. -/
structure Ensemble where
  stage : Stage
  evaluations : CorrelationId → Option Evaluation := fun _ => none
  fires : Nat := 0
  dispatches : List Dispatch := []
  source : Nat → Nat := fun _ => 0
  history : List Occurrence := []

/-- A task that listens for an inbox with a given address, and is to be polled on what was fired. -/
structure InboxTask where
  id : Nat
  listener : Nat
  address : CorrelationId
  payload : Payload

/-- The listener of an inbox that a task is. -/
def inboxTask? : Nat × Activity → Option InboxTask
  | (id, .launched (.inbox listener address) payload) => some ⟨id, listener, address, payload⟩
  | _ => none

namespace Stage

/-- The listeners of inboxes that are to be polled. -/
def inboxTasks (s : Stage) : List InboxTask := s.ready.filterMap inboxTask?

/-- What others do may change everything but the events and the inboxes.  Tasks may be polled or
aborted, numbers given out, and time goes by. -/
structure Passes (s s' : Stage) : Prop where
  host : s'.bot.host = s.bot.host
  inboxes : s'.bot.inboxes = s.bot.inboxes
  replies : s'.bot.replies = s.bot.replies
  minted : s.bot.minted ≤ s'.bot.minted
  spawned : s.spawned ≤ s'.spawned
  now : s.now ≤ s'.now
  tasks : s'.inboxTasks.Sublist s.inboxTasks

theorem Passes.refl (s : Stage) : s.Passes s :=
  ⟨rfl, rfl, rfl, Nat.le_refl _, Nat.le_refl _, Nat.le_refl _, .refl _⟩

/-- One callback of a fire has its turn. -/
def consider (s : Stage) (payload : Payload) (c : Callback Handler) : Stage :=
  (s.spawnAll ((s.bot.conduct.consider payload c ()).1.toList.map
    fun l => .launched l.target l.payload)).2

end Stage

namespace Ensemble

/-- Before anything has happened. -/
def start : Ensemble where
  stage := Stage.ofBot {}

/-- An evaluation is asked for. -/
def enroll (σ : Ensemble) (origin : Message) (deadline : Nat) (language : Language)
    (text : String) : Ensemble :=
  let (session, s) := Stage.openSession σ.stage origin deadline
  { σ with
    stage := s
    evaluations := Function.update σ.evaluations session.address
      (some ⟨session, language, text, .talking (language.evaluate text)⟩) }

/-- The evaluation at `a` has moved. -/
def move (σ : Ensemble) (a : CorrelationId) (e : Evaluation) (m : Move) : Ensemble :=
  { σ with
    stage := m.stage
    evaluations := Function.update σ.evaluations a (some { e with phase := m.phase })
    history := m.occurrences ++ σ.history }

theorem evaluations_enroll_self (σ : Ensemble) (origin : Message) (deadline : Nat)
    (language : Language) (text : String) :
    (σ.enroll origin deadline language text).evaluations ⟨evaluationOrigin, σ.stage.bot.minted⟩ =
      some ⟨⟨origin, ⟨evaluationOrigin, σ.stage.bot.minted⟩, deadline⟩, language, text,
        .talking (language.evaluate text)⟩ := Function.update_self _ _ _

theorem evaluations_move_self (σ : Ensemble) (a : CorrelationId) (e : Evaluation) (m : Move) :
    (σ.move a e m).evaluations a = some { e with phase := m.phase } := Function.update_self _ _ _

/-- Something is fired, to be taken up by `callbacks`. -/
def launch (σ : Ensemble) (event : String) (payload : Payload) (answered : Option Nat)
    (callbacks : List (Callback Handler)) : Ensemble :=
  { σ with
    fires := σ.fires + 1
    dispatches := ⟨σ.fires, payload, callbacks⟩ :: σ.dispatches
    history := .fired σ.fires event payload answered :: σ.history }

/-- What there is to remember when the listener of an inbox is polled. -/
def takings (σ : Ensemble) (t : InboxTask) : List Occurrence :=
  match Payload.message? t.payload with
  | some reply =>
    if t.listener ∈ σ.stage.bot.inboxes ∧ Stage.reply? σ.stage t.listener = none then
      [.taken (σ.source t.id) t.listener reply]
    else []
  | none => []

/-- The listener of an inbox is polled. -/
def deliver (σ : Ensemble) (t : InboxTask) (ready : List (Nat × Activity)) : Ensemble :=
  { σ with
    stage := (Payload.message? t.payload).elim { σ.stage with ready := ready }
      (Stage.receiveReply { σ.stage with ready := ready } t.listener)
    history := σ.takings t ++ σ.history }

/-- What can happen next. -/
inductive Step (σ : Ensemble) : Ensemble → Prop where
  /-- An evaluation begins. -/
  | enroll (origin : Message) (deadline : Nat) (language : Language) (text : String) :
      Step σ (σ.enroll origin deadline language text)
  /-- An evaluation goes on. -/
  | proceed {a : CorrelationId} {e : Evaluation} {m : Move} (he : σ.evaluations a = some e)
      (hm : e.phase.Proceeds σ.stage e.session m) : Step σ (σ.move a e m)
  /-- An evaluation is dropped. -/
  | drop {a : CorrelationId} {e : Evaluation} {p : Phase} (he : σ.evaluations a = some e)
      (hp : e.phase.Drops p) : Step σ (σ.move a e ⟨σ.stage, p, []⟩)
  /-- Someone else changes the host. -/
  | edit {c : HostEdit Handler} (hc : c.IsForeign) :
      Step σ { σ with stage := σ.stage.modify fun b => { b with host := b.host.afterEdit c } }
  /-- Someone else fires, be it an answer or not. -/
  | fire {event : String} {payload : Payload} {callbacks : List (Callback Handler)}
      (answered : Option Nat) (hl : σ.stage.bot.host.listeners event payload = .ok callbacks) :
      Step σ (σ.launch event payload answered callbacks)
  /-- A callback of a fire under way has its turn. -/
  | consider {before after : List Dispatch} {d : Dispatch} {c : Callback Handler}
      {cs : List (Callback Handler)} (hd : σ.dispatches = before ++ d :: after)
      (hc : d.rest = c :: cs) :
      Step σ { σ with
        stage := σ.stage.consider d.payload c
        dispatches := before ++ { d with rest := cs } :: after
        source := Function.update σ.source σ.stage.spawned d.fire }
  /-- The listener of an inbox is polled. -/
  | deliver {before after : List (Nat × Activity)} {task : Nat × Activity} {t : InboxTask}
      (hr : σ.stage.ready = before ++ task :: after) (ht : inboxTask? task = some t) :
      Step σ (σ.deliver t (before ++ after))
  /-- Others are at work. -/
  | other {s : Stage} (hs : σ.stage.Passes s) : Step σ { σ with stage := s }

/-- Several steps. -/
abbrev Steps : Ensemble → Ensemble → Prop := Relation.ReflTransGen Step

/-- The states that are reached through states in which `P` holds. -/
inductive Run (P : Ensemble → Prop) : Ensemble → Prop where
  | start (hp : P .start) : Run P .start
  | step {σ σ' : Ensemble} (h : Run P σ) (hs : Step σ σ') (hp : P σ') : Run P σ'

/-- The states that are reached at all. -/
abbrev Reachable : Ensemble → Prop := Run fun _ => True

theorem Run.holds {P : Ensemble → Prop} {σ : Ensemble} (h : Run P σ) : P σ := by
  cases h with
  | start hp => exact hp
  | step _ _ hp => exact hp

/-! ### A run

One evaluation whose only command is answered. -/

namespace Sample

def address : CorrelationId := ⟨evaluationOrigin, 0⟩

def evaluation (phase : Phase) : Evaluation where
  session := ⟨{}, address, 1000⟩
  language := {}
  text := "!a"
  phase := phase

def reply : Message := { body := .text "ok", address := .internal address }

/-- What is still to be done after the reply. -/
def rest : Dialogue String := .afterReply "!a" .done reply

def created : Ensemble :=
  { start with stage := start.stage.modify fun b =>
    { b with host := b.host.afterEdit (.create CoreEvent.onMessage.name Schema.ofMessage) } }

def hosted : Ensemble :=
  { created with stage := created.stage.modify fun b =>
    { b with host := b.host.afterEdit (.create CoreEvent.onMessageSent.name Schema.ofMessage) } }

def begun : Ensemble := hosted.enroll {} 1000 {} "!a"

/-- The stage once the inbox is open. -/
def listening : Stage :=
  begun.stage.modify fun b => { b with
    host := (b.host.subscribe CoreEvent.onMessageSent.name
      (inboxCallback 1 address)).toOption.getD {}
    minted := 2
    inboxes := [1] }

def subscribed : Ensemble :=
  begun.move address (evaluation (.talking (.ask "!a" .done)))
    ⟨listening, .subscribed 1 "!a" .done, [.opened address 1]⟩

def waiting : Ensemble :=
  subscribed.move address (evaluation (.subscribed 1 "!a" .done))
    ⟨listening, .waiting 1 "!a" .done, [.published address 1 "!a"]⟩

def answered : Ensemble :=
  waiting.launch CoreEvent.onMessageSent.name (Payload.ofMessage reply) (some 1)
    [inboxCallback 1 address]

def dispatched : Ensemble :=
  { answered with
    stage := answered.stage.consider (Payload.ofMessage reply) (inboxCallback 1 address)
    dispatches := [⟨0, Payload.ofMessage reply, []⟩]
    source := Function.update answered.source 0 0 }

def delivered : Ensemble := dispatched.deliver ⟨0, 1, address, Payload.ofMessage reply⟩ []

def returned : Ensemble :=
  delivered.move address (evaluation (.waiting 1 "!a" .done))
    ⟨delivered.stage, .leaving 1 (some rest), [.returned address 1 reply]⟩

def ended : Ensemble :=
  returned.move address (evaluation (.leaving 1 (some rest)))
    ⟨returned.stage.closeInbox 1 address, .talking rest, []⟩

/-- All states, one after the other. -/
def states : List Ensemble :=
  [start, created, hosted, begun, subscribed, waiting, answered, dispatched, delivered, returned,
    ended]

theorem history_ended : ended.history =
    [.returned address 1 reply, .taken 0 1 reply,
      .fired 0 CoreEvent.onMessageSent.name (Payload.ofMessage reply) (some 1),
      .published address 1 "!a", .opened address 1] := rfl

theorem parse_text : Language.parse {} "!a" = .ok [.literal "!a"] := by
  have hl : Token.lex {} "!a" = .ok [.identifier "!a"] := by
    rw [Token.lex, if_pos (by decide)]
    exact congrArg Except.ok (by decide +kernel)
  have hn : Node.parse Node.defaultMaxDepth [.identifier "!a"] = .ok [.literal "!a"] := by
    rw [Node.parse, Node.parseAt_of_closes (Nat.zero_le _) (.other id .nil),
      Node.parseItems_identifier (by simp), Node.parseItems_nil]
    rfl
  rw [Language.parse, hl]
  exact congrArg (Except.mapError EvalError.parse) hn

/-- The text of the sample is its only command. -/
theorem evaluate_text : Language.evaluate {} "!a" = .ask "!a" .done := by
  have ht : Text.trim ("" ++ "!a") = "!a" := by decide +kernel
  rw [Language.evaluate, parse_text]
  change Dialogue.ofCommand "!" ("" ++ "!a") = _
  rw [Dialogue.ofCommand, ht, if_pos (by decide +kernel)]

theorem evaluations_begun :
    begun.evaluations address = some (evaluation (.talking (.ask "!a" .done))) := by
  have hb := evaluations_enroll_self hosted {} 1000 {} "!a"
  rw [evaluate_text] at hb
  exact hb

theorem run {P : Ensemble → Prop} (hp : ∀ σ ∈ states, P σ) : Run P ended := by
  simp only [states, List.forall_mem_cons] at hp
  obtain ⟨h₀, h₁, h₂, h₃, h₄, h₅, h₆, h₇, h₈, h₉, h₁₀, -⟩ := hp
  have r₀ : Run P start := .start h₀
  have r₁ : Run P created := r₀.step (.edit (c := .create _ _) trivial) h₁
  have r₂ : Run P hosted := r₁.step (.edit (c := .create _ _) trivial) h₂
  have r₃ : Run P begun := r₂.step (.enroll {} 1000 {} "!a") h₃
  have r₄ : Run P subscribed := r₃.step (.proceed evaluations_begun (.subscribe rfl)) h₄
  have r₅ : Run P waiting := by
    refine r₄.step (.proceed (evaluations_move_self _ _ _ _) (.publish ?_)) h₅
    -- nobody listens for commands, so the stage stays as it is
    have hl := Host.listeners_ofMessage (h := listening.bot.host)
      (rfl : listening.bot.host.schema? CoreEvent.onMessage.name = _)
      (Session.request ⟨{}, address, 1000⟩ "!a")
    change listening.fireTracked _ _ = _
    simp only [Stage.fireTracked, Stage.fire, Bot.launches, Conduct.fire, evaluation, hl]
    rfl
  have r₆ : Run P answered := r₅.step (.fire (some 1) (Host.listeners_ofMessage rfl _)) h₆
  have r₇ : Run P dispatched :=
    r₆.step (@Step.consider _ [] [] ⟨0, Payload.ofMessage reply, [inboxCallback 1 address]⟩ _ []
      rfl rfl) h₇
  have r₈ : Run P delivered := r₇.step (@Step.deliver _ [] [] _ _ rfl rfl) h₈
  have he : waiting.evaluations address = some (evaluation (.waiting 1 "!a" .done)) :=
    evaluations_move_self _ _ _ _
  have r₉ : Run P returned := r₈.step (@Step.proceed delivered _ _ _ he (.receive rfl)) h₉
  exact r₉.step (.proceed (evaluations_move_self _ _ _ _) .close) h₁₀

end Sample

end Ensemble

end ChatBot
