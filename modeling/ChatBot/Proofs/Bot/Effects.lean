import ChatBot.Proofs.Bot.Chronicle
import ChatBot.Proofs.Evaluation.Traffic

/-!
# What tasks leave alone

Most of what a task does has nothing to do with the commands of the bot, its outbox or its ticker:
it starts tasks and gives out numbers (`Stage.Quiet`).  The exceptions are the report of a result
and the steps of a sender.

* `Errand.Proceeds.cases`: a step of a task is quiet, or a report, or a step of a sender.
-/

namespace ChatBot

/-! ### New tasks -/

/-- A task that is started by a fire. -/
def Launch.activity (l : Launch Handler) : Activity := .launched l.target l.payload

namespace Stage

variable {s s' s'' : Stage}

/-- Tasks were added, and none was touched. -/
structure Spawns (s s' : Stage) (ts : List Activity) : Prop where
  ready : s'.ready = s.ready ++ numbered s.spawned ts
  parked : s'.parked = s.parked
  spawned : s'.spawned = s.spawned + ts.length

theorem Spawns.refl (s : Stage) : s.Spawns s [] := ⟨(List.append_nil _).symm, rfl, rfl⟩

theorem Spawns.trans {ts us : List Activity} (h : s.Spawns s' ts) (h' : s'.Spawns s'' us) :
    s.Spawns s'' (ts ++ us) where
  ready := by rw [h'.ready, h.ready, h.spawned, numbered_append, List.append_assoc]
  parked := h'.parked.trans h.parked
  spawned := by rw [h'.spawned, h.spawned, List.length_append, Nat.add_assoc]

theorem spawns_modify (s : Stage) (f : Bot → Bot) : s.Spawns (s.modify f) [] :=
  ⟨(List.append_nil _).symm, rfl, rfl⟩

theorem spawns_spawn (s : Stage) (a : Activity) : s.Spawns (s.spawn a).2 [a] := ⟨rfl, rfl, rfl⟩

theorem spawns_spawnAll (s : Stage) (ts : List Activity) : s.Spawns (s.spawnAll ts).2 ts := by
  induction ts generalizing s with
  | nil => exact .refl s
  | cons t ts ih => exact (spawns_spawn s t).trans (ih _)

end Stage

/-! ### What is kept -/

theorem CoreEvent.onMessage_ne_onMessageSent :
    CoreEvent.onMessage.name ≠ CoreEvent.onMessageSent.name := by decide

/-- No inbox and no reply is kept under a number that is still to be given out. -/
structure Bot.Filed (b : Bot) : Prop where
  inboxes : ∀ listener ∈ b.inboxes, listener < b.minted
  replies : ∀ p ∈ b.replies, p.1 < b.minted

theorem Bot.Filed.reply?_minted {s : Stage} (h : s.bot.Filed) :
    s.reply? s.bot.minted = none := by
  refine List.lookup_eq_none_iff.mpr fun p hp => ?_
  simpa using Nat.ne_of_gt (h.replies p hp)

/-- More numbers were given out. -/
theorem Bot.Filed.mono {b b' : Bot} (h : b.Filed) (hm : b.minted ≤ b'.minted)
    (hi : b'.inboxes = b.inboxes) (hr : b'.replies = b.replies) : b'.Filed where
  inboxes l hl := Nat.lt_of_lt_of_le (h.inboxes l (hi ▸ hl)) hm
  replies p hp := Nat.lt_of_lt_of_le (h.replies p (hr ▸ hp)) hm

/-- The commands of the bot, those who listen for messages and the ticker did not change. -/
structure Bot.Keeps (b b' : Bot) : Prop where
  registry : b'.registry = b.registry
  installed : b'.installed = b.installed
  config : b'.config = b.config
  minted : b.minted ≤ b'.minted
  ticker : b'.ticker = b.ticker
  filed : b.Filed → b'.Filed
  host : b.host.Separated → b'.host.Separated ∧ SameCommands b.host b'.host ∧
    b'.host.register CoreEvent.onMessage.name = b.host.register CoreEvent.onMessage.name

namespace Bot.Keeps

variable {b b' b'' : Bot}

theorem refl (b : Bot) : b.Keeps b :=
  ⟨rfl, rfl, rfl, Nat.le_refl _, rfl, id, fun h => ⟨h, fun _ => rfl, rfl⟩⟩

/-- Only the outbox changed, and what is put down along the way. -/
theorem of_eq (h : b' = { b with
    outbox := b'.outbox, handed := b'.handed, journal := b'.journal, outcomes := b'.outcomes }) :
    b.Keeps b' := by
  rw [h]
  exact ⟨rfl, rfl, rfl, Nat.le_refl _, rfl, fun hf => ⟨hf.inboxes, hf.replies⟩,
    fun hs => ⟨hs, fun _ => rfl, rfl⟩⟩

theorem trans (h : b.Keeps b') (h' : b'.Keeps b'') : b.Keeps b'' where
  registry := h'.registry.trans h.registry
  installed := h'.installed.trans h.installed
  config := h'.config.trans h.config
  minted := Nat.le_trans h.minted h'.minted
  ticker := h'.ticker.trans h.ticker
  filed hf := h'.filed (h.filed hf)
  host hs :=
    have h₁ := h.host hs
    have h₂ := h'.host h₁.1
    ⟨h₂.1, fun event => (h₂.2.1 event).trans (h₁.2.1 event), h₂.2.2.trans h₁.2.2⟩

theorem grows (h : b.Keeps b') : b.Grows b' where
  installed serial i hi := by rw [Bot.installation?, h.installed]; exact hi
  minted := h.minted
  config := h.config

theorem consistent (h : b.Keeps b') (hb : b.Consistent) : b'.Consistent :=
  hb.of_grows h.grows h.registry
    (fun p hp => Nat.lt_of_lt_of_le (hb.numbered p (h.installed ▸ hp)) h.minted)
    (h.host hb.separated).1 (h.host hb.separated).2.1

/-- The host was changed, but not for those who listen for messages. -/
theorem edit {e : HostEdit Handler} (he : e.Misses Callback.isCommand)
    (hn : CoreEvent.onMessage.name ≠ e.event) (b : Bot) :
    b.Keeps { b with host := b.host.afterEdit e } :=
  { refl b with
    filed := fun hf => ⟨hf.inboxes, hf.replies⟩
    host := fun hs => ⟨hs.afterEdit e, Host.filter_afterEdit_of_misses hs he,
      Host.register_afterEdit_of_ne hs hn⟩ }

end Bot.Keeps

/-- Changes of commands have nothing to do with the ticker, the outbox and the
inboxes. -/
theorem Bot.edit_spares (b : Bot) (e : BotEdit) :
    (b.edit e).2.ticker = b.ticker ∧ (b.edit e).2.outbox = b.outbox ∧
      (b.edit e).2.handed = b.handed ∧ (b.edit e).2.inboxes = b.inboxes ∧
      (b.edit e).2.replies = b.replies := by
  cases e with
  | add name description command pattern =>
      rw [edit, addCommand_eq]
      split
      · exact ⟨rfl, rfl, rfl, rfl, rfl⟩
      · split
        · exact ⟨rfl, rfl, rfl, rfl, rfl⟩
        · exact ⟨rfl, rfl, rfl, rfl, rfl⟩
        · split <;> exact ⟨rfl, rfl, rfl, rfl, rfl⟩
  | reserve owner name description =>
      rw [edit, registerCommand_eq]
      split
      · exact ⟨rfl, rfl, rfl, rfl, rfl⟩
      · split <;> exact ⟨rfl, rfl, rfl, rfl, rfl⟩
  | remove name =>
      rw [edit, unregisterCommand_eq]
      split <;> exact ⟨rfl, rfl, rfl, rfl, rfl⟩
  | host k => exact ⟨rfl, rfl, rfl, rfl, rfl⟩

namespace Stage

variable {s s' s'' : Stage} {ls ls' : List (Launch Handler)}

/-- No tasks were started but by fires, and the commands and the ticker were left alone. -/
structure Fires (s s' : Stage) (ls : List (Launch Handler)) : Prop where
  spawns : s.Spawns s' (ls.map Launch.activity)
  keeps : s.bot.Keeps s'.bot

/-- The outbox was left alone as well. -/
structure Quiet (s s' : Stage) (ls : List (Launch Handler)) : Prop extends s.Fires s' ls where
  outbox : s'.bot.outbox = s.bot.outbox
  handed : s'.bot.handed = s.bot.handed

theorem Fires.trans (h : s.Fires s' ls) (h' : s'.Fires s'' ls') : s.Fires s'' (ls ++ ls') :=
  ⟨List.map_append ▸ h.spawns.trans h'.spawns, h.keeps.trans h'.keeps⟩

theorem fires_modify {f : Bot → Bot} (hf : s.bot.Keeps (f s.bot)) : s.Fires (s.modify f) [] :=
  ⟨spawns_modify s f, hf⟩

theorem Quiet.refl (s : Stage) : s.Quiet s [] := ⟨⟨.refl s, .refl _⟩, rfl, rfl⟩

theorem Quiet.trans (h : s.Quiet s' ls) (h' : s'.Quiet s'' ls') : s.Quiet s'' (ls ++ ls') :=
  ⟨h.toFires.trans h'.toFires, h'.outbox.trans h.outbox, h'.handed.trans h.handed⟩

theorem quiet_modify {f : Bot → Bot} (hf : s.bot.Keeps (f s.bot))
    (ho : (f s.bot).outbox = s.bot.outbox) (hh : (f s.bot).handed = s.bot.handed) :
    s.Quiet (s.modify f) [] := ⟨fires_modify hf, ho, hh⟩

theorem quiet_mint (s : Stage) : s.Quiet s.mint.2 [] :=
  quiet_modify (f := fun b => { b with minted := b.minted + 1 })
    { Bot.Keeps.refl s.bot with
      minted := Nat.le_succ _
      filed := fun hf => hf.mono (Nat.le_succ _) rfl rfl } rfl rfl

theorem quiet_fire {event : String} {payload : Payload} {ids : List Nat}
    (hf : s.fire event payload = .ok (ids, s')) :
    ∃ ls, s.bot.launches event payload = .ok ls ∧ s.Quiet s' ls := by
  rw [fire] at hf
  cases hl : s.bot.launches event payload with
  | error e => rw [hl] at hf; cases hf
  | ok ls =>
      rw [hl] at hf
      obtain rfl : _ = s' := congrArg Prod.snd (Except.ok.inj hf)
      have hb : bot (s.spawnAll (ls.map Launch.activity)).2 = s.bot := Schedule.spawnAll_state _ _
      exact ⟨ls, rfl, ⟨spawns_spawnAll s _, hb ▸ .refl _⟩,
        congrArg Bot.outbox hb, congrArg Bot.handed hb⟩

theorem quiet_fireTracked {event : CoreEvent} {payload : Payload}
    (hf : s.fireTracked event payload = .ok s') :
    ∃ ls, s.bot.launches event.name payload = .ok ls ∧ s.Quiet s' ls := by
  rw [fireTracked] at hf
  cases hr : s.fire event.name payload with
  | error e => rw [hr] at hf; cases hf
  | ok r =>
      obtain ⟨ids, s₁⟩ := r
      rw [hr] at hf
      cases hf
      obtain ⟨ls, hl, hq⟩ := quiet_fire hr
      exact ⟨ls, hl, ⟨⟨hq.spawns.ready, hq.spawns.parked, hq.spawns.spawned⟩, hq.keeps⟩,
        hq.outbox, hq.handed⟩

theorem quiet_openInbox {a : CorrelationId} {listener : Nat}
    (ho : s.openInbox a = .ok (listener, s')) : s.Quiet s' [] := by
  obtain ⟨-, host, hh, rfl⟩ := openInbox_ok ho
  refine quiet_modify ?_ rfl rfl
  have hk := Bot.Keeps.edit (e := .subscribe CoreEvent.onMessageSent.name
    (inboxCallback s.bot.minted a)) rfl CoreEvent.onMessage_ne_onMessageSent s.bot
  rw [Host.afterEdit, Host.edit, hh] at hk
  refine { hk with
    minted := Nat.le_succ _
    filed := fun hf => ⟨fun l hl => ?_, fun p hp => Nat.lt_succ_of_lt (hf.replies p hp)⟩ }
  rcases List.mem_cons.mp hl with rfl | hl
  · exact Nat.lt_succ_self _
  · exact Nat.lt_succ_of_lt (hf.inboxes l hl)

theorem quiet_closeInbox (s : Stage) (listener : Nat) (a : CorrelationId) :
    s.Quiet (s.closeInbox listener a) [] := by
  refine quiet_modify ?_ rfl rfl
  exact { Bot.Keeps.edit (e := .unsubscribe CoreEvent.onMessageSent.name
    (inboxCallback listener a)) rfl CoreEvent.onMessage_ne_onMessageSent s.bot with
    filed := fun hf => ⟨fun l hl => hf.inboxes l (List.mem_of_mem_erase hl),
      fun p hp => hf.replies p (List.mem_of_mem_filter hp)⟩ }

theorem quiet_receiveReply (s : Stage) (listener : Nat) (reply : Message) :
    s.Quiet (s.receiveReply listener reply) [] := by
  rw [receiveReply]
  split
  · rename_i h
    refine quiet_modify { Bot.Keeps.refl s.bot with
      filed := fun hf => ⟨hf.inboxes, fun p hp => ?_⟩ } rfl rfl
    rcases List.mem_cons.mp hp with rfl | hp
    · exact hf.inboxes listener h.1
    · exact hf.replies p hp
  · exact .refl s

theorem quiet_conclude (s : Stage) (number : Nat) (outcome : Outcome) :
    s.Quiet (s.conclude number outcome) [] := quiet_modify (.of_eq rfl) rfl rfl

theorem quiet_perform (script : Script) (s : Stage) :
    ∃ ls, s.Quiet (Stage.perform script s).2 ls := by
  induction script generalizing s with
  | done => exact ⟨[], .refl s⟩
  | wait span next ih =>
      rw [perform]
      split
      · exact ih s
      · exact ⟨[], .refl s⟩
  | note label payload next ih =>
      obtain ⟨ls, hq⟩ := ih (s.modify fun b => { b with journal := ⟨label, payload⟩ :: b.journal })
      exact ⟨_, (quiet_modify (.of_eq rfl) rfl rfl).trans hq⟩
  | fire event payload next ih =>
      rw [perform]
      cases hf : s.fire event payload with
      | error e => exact ih s
      | ok r =>
          obtain ⟨ids, s₁⟩ := r
          obtain ⟨ls, -, hq⟩ := quiet_fire hf
          obtain ⟨ls', hq'⟩ := ih s₁
          exact ⟨_, hq.trans hq'⟩
  | mint origin next ih =>
      obtain ⟨ls, hq⟩ := ih ⟨origin, s.bot.minted⟩ s.mint.2
      exact ⟨_, (quiet_mint s).trans hq⟩

/-- A guest that pauses is a guest. -/
theorem isBystander_perform {script : Script} {s : Stage} {a : Activity}
    (ha : (Stage.perform script s).1 = some a) : a.IsBystander := by
  induction script generalizing s with
  | done => cases ha
  | wait span next ih =>
      rw [perform] at ha
      split at ha
      · exact ih ha
      · cases ha
        trivial
  | note label payload next ih => exact ih ha
  | fire event payload next ih =>
      rw [perform] at ha
      split at ha <;> exact ih ha
  | mint origin next ih => exact ih _ ha

theorem quiet_tick (s : Stage) : ∃ ls, s.Quiet s.tick ls := by
  rw [tick]
  cases hf : s.fireTracked .onTimerTick (tickPayload s.now) with
  | error e => exact ⟨[], .refl s⟩
  | ok s' =>
      obtain ⟨ls, -, hq⟩ := quiet_fireTracked hf
      exact ⟨ls, hq⟩

/-- A turn of a bystander. -/
theorem quiet_poll {a : Activity} (ha : a.IsBystander) (company : Company) (s : Stage) :
    (∃ ls, s.Quiet (Stage.poll company a s).2 ls) ∧
      ∀ a', (Stage.poll company a s).1 = some a' → a'.IsBystander := by
  cases a with
  | launched handler payload =>
      cases handler with
      | inbox listener address =>
          refine ⟨⟨[], ?_⟩, fun a' h => (by cases h)⟩
          rw [poll, launch]
          cases Payload.message? payload with
          | none => exact .refl s
          | some reply => exact quiet_receiveReply s listener reply
      | guest name => exact ⟨quiet_perform _ s, fun a' h => isBystander_perform h⟩
      | command serial => exact ha.elim
  | script time script =>
      rw [poll]
      split
      · exact ⟨quiet_perform script s, fun a' h => isBystander_perform h⟩
      · exact ⟨⟨[], .refl s⟩, fun a' h => by cases h; trivial⟩
  | ticker next =>
      refine ⟨?_, fun a' h => ?_⟩
      · rw [poll, pollTicker.eq_def]
        cases next with
        | none => exact ⟨[], .refl s⟩
        | some time =>
            dsimp only
            split
            · exact quiet_tick s
            · exact ⟨[], .refl s⟩
      · obtain ⟨next', -, rfl⟩ := Option.map_eq_some_iff.mp h
        trivial
  | job recipient work => exact ha.elim
  | sender number state => exact ha.elim

theorem quiet_announces {m : Message} {deed : Chronicle.Deed} (h : s.Announces m s' deed) :
    ∃ ls, s.Quiet s' ls := by
  cases h with
  | heard hf =>
      obtain ⟨ls, -, hq⟩ := quiet_fireTracked hf
      exact ⟨ls, hq⟩
  | unheard hf => exact ⟨[], .refl s⟩

end Stage

theorem Phase.Proceeds.quiet {s : Stage} {session : Session} {p : Phase} {m : Move}
    (h : p.Proceeds s session m) : ∃ ls, s.Quiet m.stage ls := by
  cases h with
  | subscribe ho => exact ⟨[], Stage.quiet_openInbox ho⟩
  | publish hf =>
      obtain ⟨ls, -, hq⟩ := Stage.quiet_fireTracked hf
      exact ⟨ls, hq⟩
  | close => exact ⟨[], Stage.quiet_closeInbox _ _ _⟩
  | refuse | lose | receive | giveUp => exact ⟨[], .refl s⟩

/-! ### The exceptions -/

namespace Stage

variable {s : Stage}

@[simp] theorem bot_withOutbox (s : Stage) (f : Outbox → Outbox) :
    (s.withOutbox f).bot = { s.bot with outbox := f s.bot.outbox } := rfl

theorem fires_withOutbox (s : Stage) (f : Outbox → Outbox) : s.Fires (s.withOutbox f) [] :=
  fires_modify (.of_eq rfl)

theorem fires_withQueue (s : Stage) (rest : List Message) : s.Fires (s.withQueue rest) [] :=
  fires_withOutbox s _

theorem fires_hand (s : Stage) (h : Handover) : s.Fires (s.hand h) [] :=
  fires_modify (.of_eq rfl)

theorem fires_post (s : Stage) (m : Message) : s.Fires (s.post m) [] := by
  refine fires_modify ?_
  split
  · exact .refl s.bot
  · exact (.of_eq rfl)

theorem fires_report (s : Stage) (result : Except CommandError String) (recipient : Recipient) :
    s.Fires (s.report result recipient) [] := by
  cases recipient with
  | asker name request => exact fires_post s _
  | attendant number => exact (quiet_conclude s number _).toFires

/-- What is dropped leaves its inbox, or takes the receiving end of the outbox with it. -/
theorem fires_drop (s : Stage) {a : Activity} (ha : a.IsAttended) : s.Fires (s.drop a) [] := by
  cases a with
  | sender number state =>
      cases state with
      | fresh => exact (Quiet.refl s).toFires
      | _ => exact fires_withOutbox s fun o => { o with receiver := .lost, queue := [] }
  | job recipient work =>
      cases work with
      | asking session listener => exact (quiet_closeInbox s listener session.address).toFires
      | _ => exact (Quiet.refl s).toFires
  | launched | script | ticker => exact ha.elim

theorem quiet_endSender (s : Stage) (number : Option Nat) (result : Except BotError Unit) :
    s.Quiet (s.endSender number result) [] := by
  cases number with
  | none => exact .refl s
  | some n => exact quiet_conclude s n _

end Stage

theorem SenderState.Proceeds.fires {s : Stage} {number : Option Nat} {state : SenderState}
    {o : Stride} (h : state.Proceeds s number o) : ∃ ls, s.Fires o.stage ls := by
  cases h with
  | refuse => exact ⟨[], (Stage.quiet_endSender s number _).toFires⟩
  | take => exact ⟨[], Stage.fires_withOutbox s fun o => { o with receiver := .taken }⟩
  | stop =>
      exact ⟨_, (Stage.fires_withOutbox s _).trans (Stage.quiet_endSender _ number _).toFires⟩
  | discard => exact ⟨[], Stage.fires_withQueue s _⟩
  | announce hq hm ha =>
      obtain ⟨ls, hf⟩ := Stage.quiet_announces ha
      exact ⟨_, (Stage.fires_withQueue s _).trans hf.toFires⟩
  | hand => exact ⟨_, (Stage.fires_withQueue s _).trans (Stage.fires_hand _ _)⟩
  | lose => exact ⟨[], (Stage.Quiet.refl s).toFires⟩
  | arrive ht ha =>
      obtain ⟨ls, hf⟩ := Stage.quiet_announces ha
      exact ⟨ls, hf.toFires⟩

/-! ### Steps of tasks -/

/-- What concerns neither the outbox nor announcements. -/
def Chronicle.Deed.IsInner : Chronicle.Deed → Prop
  | .ran _ _ | .began _ | .published _ => True
  | .posted _ | .dequeued _ _ | .announced _ _ => False

/-- The sender that a task is. -/
def Errand.sender? : Errand → Option SenderState
  | .activity (.sender _ state) => some state
  | _ => none

/-- The evaluation that a task is. -/
def Errand.session? : Errand → Option Session
  | .evaluation _ session _ => some session
  | _ => none

/-- A step that neither reports a result nor empties the outbox. -/
structure Stride.IsQuiet (s : Stage) (o : Stride) : Prop where
  stage : ∃ ls, s.Quiet o.stage ls
  deeds : ∀ d ∈ o.deeds, d.IsInner
  next : ∀ e, o.next = some e → e.sender? = none

theorem Errand.sender?_ofTurn (recipient : Recipient) (turn : Turn) :
    (Errand.ofTurn recipient turn).sender? = none := by
  cases turn with
  | waits job => cases job <;> rfl
  | ends result => rfl

theorem Activity.IsBystander.sender? {a : Activity} (ha : a.IsBystander) :
    (Errand.activity a).sender? = none := by
  cases a with
  | sender number state => exact ha.elim
  | _ => rfl

/-- What a task does is quiet, unless it reports a result or is a sender. -/
theorem Errand.Proceeds.cases {s : Stage} {e : Errand} {o : Stride} (h : e.Proceeds s o) :
    (e.sender? = none ∧ o.IsQuiet s) ∨
    (∃ recipient result, e = .result recipient result ∧
      o = ⟨none, s.report result recipient, recipient.deeds result⟩) ∨
    ∃ number state, e = .activity (.sender number state) ∧ state.Proceeds s number o := by
  cases h with
  | launch hi hm =>
      exact .inl ⟨rfl, ⟨[], .refl s⟩, by simp [Chronicle.Deed.IsInner], by rintro _ ⟨⟩; rfl⟩
  | stray h => exact .inl ⟨rfl, ⟨[], .refl s⟩, by simp, by simp⟩
  | run ht =>
      exact .inl ⟨rfl, ⟨[], .refl s⟩, by simp, by rintro _ ⟨⟩; exact Errand.sender?_ofTurn _ _⟩
  | begin hm deadline =>
      exact .inl ⟨rfl, ⟨[], Stage.quiet_mint s⟩, by simp [Chronicle.Deed.IsInner],
        by rintro _ ⟨⟩; rfl⟩
  | resume =>
      exact .inl ⟨rfl, ⟨[], .refl s⟩, by simp, by rintro _ ⟨⟩; exact Errand.sender?_ofTurn _ _⟩
  | evaluate hm =>
      refine .inl ⟨rfl, hm.quiet, fun d hd => ?_, by rintro _ ⟨⟩; rfl⟩
      obtain ⟨occurrence, -, ho⟩ := List.mem_filterMap.mp hd
      cases occurrence with
      | published address listener command =>
          cases ho
          trivial
      | _ => cases ho
  | conclude | fail => exact .inl ⟨rfl, ⟨[], .refl s⟩, by simp, by rintro _ ⟨⟩; rfl⟩
  | report => exact .inr (.inl ⟨_, _, rfl, rfl⟩)
  | send hs => exact .inr (.inr ⟨_, _, rfl, hs⟩)
  | attend ha company =>
      obtain ⟨hq, hnext⟩ := Stage.quiet_poll ha company s
      refine .inl ⟨ha.sender?, hq, by simp, fun e he => ?_⟩
      obtain ⟨a, ha', rfl⟩ := Option.map_eq_some_iff.mp he
      exact (hnext a ha').sender?

/-- No step of a task starts tasks but by fires, or has to do with commands and the ticker. -/
theorem Errand.Proceeds.fires {s : Stage} {e : Errand} {o : Stride} (h : e.Proceeds s o) :
    ∃ ls, s.Fires o.stage ls := by
  rcases h.cases with ⟨-, ⟨ls, hq⟩, -, -⟩ | ⟨recipient, result, -, rfl⟩ | ⟨number, state, -, hs⟩
  · exact ⟨ls, hq.toFires⟩
  · exact ⟨[], Stage.fires_report s result recipient⟩
  · exact hs.fires

end ChatBot
