import ChatBot.Proofs.Evaluation.Ensemble
import ChatBot.Proofs.Schedule

/-!
# The traffic of replies

What round trips depend on is little of what there is on a stage: the inboxes, the messages that
are on their way to one, and where every evaluation stands.  This is the `Traffic` of an ensemble.
A message is on its way from the moment when it is fired and an inbox with its address is listening,
whether the callback has had its turn or not.

`Traffic.Step` are the nine things that can happen to it.  What the operations of a stage do to it
is told at the end.
-/

namespace ChatBot

/-- A message on its way from a fire to an inbox with a given address. -/
structure Delivery where
  fire : Nat
  listener : Nat
  address : CorrelationId
  reply : Message
  deriving DecidableEq

/-- The inboxes that are open, the replies that lie in them, and what is on its way to them, among
the evaluations that they are for.  `minted` numbers have been given out, the next fire has the
number `fires`, and the history has the latest first. -/
structure Traffic where
  evaluations : CorrelationId → Option Evaluation
  minted : Nat
  inboxes : List Nat
  replies : List (Nat × Message)
  fires : Nat
  underway : List Delivery
  history : List Occurrence

/-- An evaluation that has nothing left to do but close its inbox, and has no result. -/
def Phase.IsFailing : Phase → Prop
  | .talking (.fail _) | .leaving _ (some (.fail _)) | .leaving _ none | .gone => True
  | _ => False

namespace Traffic

/-- The inbox of the round trip that the evaluation at `a` is in. -/
def roundTrip? (t : Traffic) (a : CorrelationId) : Option Nat :=
  (t.evaluations a).bind (·.phase.listener?)

/-- The traffic after the evaluation at `a` has got to another phase. -/
def turn (t : Traffic) (a : CorrelationId) (e : Evaluation) (p : Phase) : Traffic :=
  { t with evaluations := Function.update t.evaluations a (some { e with phase := p }) }

theorem roundTrip?_turn (t : Traffic) (a : CorrelationId) (e : Evaluation) (p : Phase) :
    (t.turn a e p).roundTrip? = Function.update t.roundTrip? a p.listener? := by
  funext b
  by_cases hb : b = a
  · subst hb
    simp [roundTrip?, turn]
  · simp [roundTrip?, turn, hb]

theorem roundTrip?_of_phase {t : Traffic} {a : CorrelationId} {e : Evaluation}
    (he : t.evaluations a = some e) : t.roundTrip? a = e.phase.listener? := by
  rw [roundTrip?, he]
  rfl

/-- What a fire brings on its way: a message that is sent goes to the inbox with its address. -/
def delivery? (t : Traffic) (event : String) (payload : Payload) : Option Delivery :=
  if event = CoreEvent.onMessageSent.name then
    match Payload.message? payload with
    | some reply =>
      match reply.address with
      | .internal a => (t.roundTrip? a).map fun listener => ⟨t.fires, listener, a, reply⟩
      | _ => none
    | none => none
  else none

/-- What steps do to the traffic. -/
inductive Step (t : Traffic) : Traffic → Prop where
  /-- Numbers are given out, and messages get lost. -/
  | quiet {minted : Nat} {underway : List Delivery} (hm : t.minted ≤ minted)
      (hu : underway.Subperm t.underway) :
      Step t { t with minted := minted, underway := underway }
  /-- An evaluation begins. -/
  | enroll {e : Evaluation} {d : Dialogue String}
      (ha : e.session.address = ⟨evaluationOrigin, t.minted⟩) (hp : e.phase = .talking d) :
      Step t { t with
        minted := t.minted + 1
        evaluations := Function.update t.evaluations e.session.address (some e) }
  /-- An evaluation comes to nothing, or is dropped. -/
  | fail {a : CorrelationId} {e : Evaluation} {p : Phase} (he : t.evaluations a = some e)
      (hl : p.listener? = e.phase.listener?) (hp : p.IsFailing) : Step t (t.turn a e p)
  /-- A round trip begins. -/
  | subscribe {a : CorrelationId} {e : Evaluation} {command : String}
      {resume : String → Dialogue String} (he : t.evaluations a = some e)
      (hp : e.phase = .talking (.ask command resume)) :
      Step t { t.turn a e (.subscribed t.minted command resume) with
        minted := t.minted + 1
        inboxes := t.minted :: t.inboxes
        history := .opened a t.minted :: t.history }
  /-- A command is published. -/
  | publish {a : CorrelationId} {e : Evaluation} {listener : Nat} {command : String}
      {resume : String → Dialogue String} (he : t.evaluations a = some e)
      (hp : e.phase = .subscribed listener command resume) :
      Step t { t.turn a e (.waiting listener command resume) with
        history := .published a listener command :: t.history }
  /-- A reply is taken out of an inbox. -/
  | receive {a : CorrelationId} {e : Evaluation} {listener : Nat} {command : String}
      {resume : String → Dialogue String} {reply : Message} (he : t.evaluations a = some e)
      (hp : e.phase = .waiting listener command resume)
      (hr : t.replies.lookup listener = some reply) :
      Step t { t.turn a e (.leaving listener (some (.afterReply command resume reply))) with
        history := .returned a listener reply :: t.history }
  /-- An inbox is closed. -/
  | close {a : CorrelationId} {e : Evaluation} {listener : Nat} {next : Option (Dialogue String)}
      (he : t.evaluations a = some e) (hp : e.phase = .leaving listener next) :
      Step t { t.turn a e (next.elim .gone .talking) with
        inboxes := t.inboxes.erase listener
        replies := t.replies.filter (·.1 != listener) }
  /-- Something is fired. -/
  | fire {event : String} {payload : Payload} {answered : Option Nat} {underway : List Delivery}
      (hu : underway.Perm ((t.delivery? event payload).toList ++ t.underway)) :
      Step t { t with
        fires := t.fires + 1
        underway := underway
        history := .fired t.fires event payload answered :: t.history }
  /-- A message is put into an inbox that is open and empty. -/
  | take {d : Delivery} {underway : List Delivery} (hu : t.underway.Perm (d :: underway))
      (hi : d.listener ∈ t.inboxes) (hr : t.replies.lookup d.listener = none) :
      Step t { t with
        underway := underway
        replies := (d.listener, d.reply) :: t.replies
        history := .taken d.fire d.listener d.reply :: t.history }

end Traffic

/-! ### The traffic of an ensemble -/

/-- The message that a callback will put into an inbox. -/
def Callback.delivery? (fire : Nat) (reply : Message) (c : Callback Handler) : Option Delivery :=
  c.inbox?.bind fun i =>
    if reply.address = .internal i.2 then some ⟨fire, i.1, i.2, reply⟩ else none

/-- The messages that a fire will put into inboxes. -/
def Dispatch.deliveries (d : Dispatch) : List Delivery :=
  (Payload.message? d.payload).elim [] fun reply => d.rest.filterMap (·.delivery? d.fire reply)

namespace Ensemble

/-- The message that a task will put into an inbox. -/
def delivery? (source : Nat → Nat) (t : InboxTask) : Option Delivery :=
  (Payload.message? t.payload).map fun reply => ⟨source t.id, t.listener, t.address, reply⟩

/-- The messages that tasks will put into inboxes. -/
def arriving (source : Nat → Nat) (ts : List InboxTask) : List Delivery :=
  ts.filterMap (delivery? source)

theorem arriving_append (source : Nat → Nat) (ts us : List InboxTask) :
    arriving source (ts ++ us) = arriving source ts ++ arriving source us :=
  List.filterMap_append

theorem arriving_cons (source : Nat → Nat) (t : InboxTask) (ts : List InboxTask) :
    arriving source (t :: ts) = (delivery? source t).toList ++ arriving source ts :=
  arriving_append source [t] ts |>.trans (by cases h : delivery? source t <;> simp [arriving, h])

/-- The messages on their way to inboxes. -/
def underway (σ : Ensemble) : List Delivery :=
  arriving σ.source σ.stage.inboxTasks ++ σ.dispatches.flatMap (·.deliveries)

/-- What round trips depend on. -/
def traffic (σ : Ensemble) : Traffic where
  evaluations := σ.evaluations
  minted := σ.stage.bot.minted
  inboxes := σ.stage.bot.inboxes
  replies := σ.stage.bot.replies
  fires := σ.fires
  underway := σ.underway
  history := σ.history

/-- Everyone who listens to an event, whether it exists or not. -/
def callbacks (σ : Ensemble) (event : CoreEvent) : List (Callback Handler) :=
  (σ.stage.bot.host.register event.name).callbacks

/-- The listeners of the evaluation at `a`. -/
def listeners (σ : Ensemble) (a : CorrelationId) : List (Callback Handler) :=
  (σ.callbacks .onMessageSent).filter (·.serves a)

end Ensemble

/-! ### What the stage's operations do -/

/-- Only those callbacks take a message up that serve its address. -/
theorem Callback.filterMap_delivery? {fire : Nat} {reply : Message} {a : CorrelationId}
    (ha : reply.address = .internal a) (cs : List (Callback Handler)) :
    cs.filterMap (·.delivery? fire reply) =
      (cs.filter (·.serves a)).filterMap (·.delivery? fire reply) := by
  rw [List.filterMap_filter]
  refine List.filterMap_congr fun c _ => ?_
  cases hi : c.inbox? with
  | none => simp [delivery?, hi]
  | some i =>
      obtain ⟨listener, b⟩ := i
      by_cases hb : b = a
      · simp [serves, hi, hb]
      · simp [delivery?, serves, hi, ha, hb, Ne.symm hb]

namespace Stage

variable {s s' : Stage}

/-- What opening an inbox amounts to. -/
theorem openInbox_ok {a : CorrelationId} {listener : Nat}
    (ho : s.openInbox a = .ok (listener, s')) :
    listener = s.bot.minted ∧ ∃ host,
      s.bot.host.subscribe CoreEvent.onMessageSent.name (inboxCallback s.bot.minted a) = .ok host ∧
      s' = s.modify fun b => { b with
        host := host
        minted := b.minted + 1
        inboxes := b.minted :: b.inboxes } := by
  rw [openInbox] at ho
  dsimp only [mint] at ho
  split at ho
  · cases ho
  · rename_i host hh
    cases ho
    exact ⟨rfl, host, hh, rfl⟩

/-- An inbox can be opened. -/
theorem exists_openInbox
    (hs : s.bot.host.schema? CoreEvent.onMessageSent.name = some Schema.ofMessage)
    (a : CorrelationId) : ∃ opened, s.openInbox a = .ok opened := by
  rw [openInbox]
  dsimp only [mint]
  split
  · rename_i error he
    cases Host.subscribe_error he with
    | unfit hs' hp hm =>
        obtain rfl : Schema.ofMessage = _ := Option.some.inj (hs.symm.trans hs')
        refine absurd ?_ hm
        rcases List.mem_cons.mp hp with rfl | hp
        · exact .refl _
        · rw [List.mem_singleton.mp hp]
          exact .refl _
  · exact ⟨_, rfl⟩

/-- A command can be published. -/
theorem exists_fireTracked
    (hs : s.bot.host.schema? CoreEvent.onMessage.name = some Schema.ofMessage) (m : Message) :
    ∃ s', s.fireTracked .onMessage (Payload.ofMessage m) = .ok s' := by
  have hc : (Payload.ofMessage m).Carries Schema.ofMessage := fun _ => Iff.rfl
  rcases Host.listeners_eq hs (Payload.ofMessage m) with ⟨-, hl⟩ | ⟨hn, -⟩
  · simp only [fireTracked, fire, Bot.launches, Conduct.fire, hl, if_true]
    exact ⟨_, rfl⟩
  · exact absurd hc hn

theorem inboxTasks_spawn (s : Stage) (t : Activity) :
    inboxTasks (s.spawn t).2 = s.inboxTasks ++ (inboxTask? (s.spawned, t)).toList := by
  rw [inboxTasks, Schedule.spawn, List.filterMap_append]
  cases h : inboxTask? (s.spawned, t) <;> simp [inboxTasks, h]

theorem inboxTasks_spawnAll {ts : List Activity} (h : ∀ t ∈ ts, ∀ id, inboxTask? (id, t) = none) :
    inboxTasks (s.spawnAll ts).2 = s.inboxTasks := by
  induction ts generalizing s with
  | nil => rfl
  | cons t ts ih =>
      rw [List.forall_mem_cons] at h
      refine (ih h.2).trans ((inboxTasks_spawn s t).trans ?_)
      rw [h.1]
      exact List.append_nil _

theorem bot_fireTracked {event : CoreEvent} {payload : Payload}
    (hf : s.fireTracked event payload = .ok s') : s'.bot = s.bot := by
  rw [fireTracked, fire] at hf
  cases hl : s.bot.launches event.name payload with
  | error e => rw [hl] at hf; cases hf
  | ok launches =>
      rw [hl] at hf
      cases hf
      exact Schedule.spawnAll_state _ _

/-- What a fire amounts to, to which no inbox listens. -/
theorem fireTracked_ok {event : CoreEvent} {payload : Payload}
    (hc : ∀ c ∈ s.bot.host.active event.name, c.inbox? = none)
    (hf : s.fireTracked event payload = .ok s') :
    s'.bot = s.bot ∧ s'.now = s.now ∧ s.spawned ≤ s'.spawned ∧ s'.inboxTasks = s.inboxTasks := by
  rw [fireTracked, fire] at hf
  cases hl : s.bot.launches event.name payload with
  | error e => rw [hl] at hf; cases hf
  | ok launches =>
      rw [hl] at hf
      cases hf
      obtain ⟨-, -, -, hm⟩ := Conduct.fire_ok hl
      refine ⟨Schedule.spawnAll_state _ _, Schedule.spawnAll_now _ _,
        Schedule.le_spawned_spawnAll _ _, inboxTasks_spawnAll fun t ht id => ?_⟩
      obtain ⟨l, hl, rfl⟩ := List.mem_map.mp ht
      obtain ⟨c, hcm, ht, -⟩ := hm l hl
      have hn := hc c hcm
      rw [Callback.inbox?, ← ht] at hn
      cases hk : l.target with
      | inbox listener a => rw [hk] at hn; cases hn
      | command serial => rfl
      | guest name => rfl

/-- A callback of an inbox starts a task if the message is for the inbox. -/
theorem consider_inboxCallback (payload : Payload) (listener : Nat) (a : CorrelationId) :
    s.consider payload (inboxCallback listener a) =
      if (Payload.message? payload).any (·.address == .internal a) then
        (s.spawn (.launched (.inbox listener a) payload)).2
      else s := by
  rw [consider, Conduct.consider]
  simp only [inboxCallback, Option.elim_some, Option.elim_none, Bot.conduct, Bot.concerns]
  by_cases hp : (Payload.message? payload).any (·.address == .internal a) = true
  · simp only [hp, if_true]
    rfl
  · simp only [hp, Bool.false_eq_true, if_false]
    rfl

theorem consider_state (payload : Payload) (c : Callback Handler) :
    (s.consider payload c).state = s.state := Schedule.spawnAll_state _ _

theorem inboxTasks_consider_of_none {payload : Payload} {c : Callback Handler}
    (hc : c.inbox? = none) : inboxTasks (s.consider payload c) = s.inboxTasks := by
  refine inboxTasks_spawnAll fun t ht id => ?_
  obtain ⟨l, hl, rfl⟩ := List.mem_map.mp ht
  obtain ⟨ht, -⟩ := Conduct.target_of_consider (Option.mem_toList.mp hl)
  rw [Callback.inbox?, ← ht] at hc
  cases hk : l.target with
  | inbox listener a => rw [hk] at hc; cases hc
  | command serial => rfl
  | guest name => rfl

/-- The tasks that a callback's turn starts, and what they will put into inboxes. -/
theorem exists_inboxTasks_consider (s : Stage) (payload : Payload) {c : Callback Handler}
    (hc : ∀ listener a, c.inbox? = some (listener, a) → c = inboxCallback listener a) :
    ∃ started : List InboxTask,
      inboxTasks (s.consider payload c) = s.inboxTasks ++ started ∧
      (∀ t ∈ started, t.id < (s.consider payload c).spawned) ∧
      ∀ source fire,
        Ensemble.arriving (Function.update source s.spawned fire) started =
          (Payload.message? payload).elim [] fun reply => (c.delivery? fire reply).toList := by
  cases hi : c.inbox? with
  | none =>
      refine ⟨[], by rw [inboxTasks_consider_of_none hi, List.append_nil], by simp, fun _ _ => ?_⟩
      cases Payload.message? payload <;> simp [Ensemble.arriving, Callback.delivery?, hi]
  | some i =>
      obtain ⟨listener, a⟩ := i
      obtain rfl := hc listener a hi
      rw [consider_inboxCallback]
      cases hm : Payload.message? payload with
      | none => exact ⟨[], by simp, by simp, fun _ _ => rfl⟩
      | some reply =>
          by_cases ha : reply.address = .internal a
          · refine ⟨[⟨s.spawned, listener, a, payload⟩], ?_, ?_, ?_⟩
            · have hs := inboxTasks_spawn s (.launched (.inbox listener a) payload)
              simpa [ha, inboxTask?] using hs
            · simp [ha, Schedule.spawn]
            · simp [Ensemble.arriving, Ensemble.delivery?, hm, Callback.delivery?, ha]
          · exact ⟨[], by simp [ha], by simp, by simp [Ensemble.arriving, Callback.delivery?, ha]⟩

end Stage

end ChatBot
