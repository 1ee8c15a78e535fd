import ChatBot.Proofs.Bot.Uses

/-!
# What shutdown waits for

A bot that shuts down waits for the tasks that are tracked when it begins to wait.  What is started
while it waits is tracked as well, by evaluations that are not over yet and by senders, but nobody
waits for that.

* `Stage.isForward_program`: the tasks of a bot start and track others, and that is all they do to
  the schedule.
* `Stage.shutdown_joins`: what has ended when the bot has shut down in time, and what may be left.
* `Stage.shutdown_leaves_listener`: a listener that is left.
-/

namespace ChatBot

namespace Stage

variable {s s' : Stage} {company : Company}

/-! ### Fires -/

theorem fire_eq {event : String} {payload : Payload} {ids : List Nat}
    (h : s.fire event payload = .ok (ids, s')) : ∃ ts, s.spawnAll ts = (ids, s') := by
  rw [fire] at h
  cases hl : s.bot.launches event payload with
  | error e => rw [hl] at h; cases h
  | ok ls =>
      rw [hl] at h
      exact ⟨_, Except.ok.inj h⟩

theorem adds_fire {event : String} {payload : Payload} {ids : List Nat}
    (h : s.fire event payload = .ok (ids, s')) :
    s.Adds s' ∧ ∀ id ∈ ids, s.IsNew s' id := by
  obtain ⟨ts, hts⟩ := fire_eq h
  have hs := Schedule.adds_spawnAll s ts
  rw [hts] at hs
  rw [Schedule.spawnAll_eq] at hts
  cases hts
  exact ⟨hs, fun id => List.mem_range'_1.mp⟩

theorem fireTracked_eq {event : CoreEvent} {payload : Payload}
    (h : s.fireTracked event payload = .ok s') :
    ∃ ids s₁, s.fire event.name payload = .ok (ids, s₁) ∧ s' = s₁.track ids := by
  rw [fireTracked] at h
  cases hf : s.fire event.name payload with
  | error e => rw [hf] at h; cases h
  | ok r =>
      rw [hf] at h
      exact ⟨r.1, r.2, rfl, (Except.ok.inj h).symm⟩

theorem adds_fireTracked {event : CoreEvent} {payload : Payload}
    (h : s.fireTracked event payload = .ok s') : s.Adds s' := by
  obtain ⟨ids, s₁, hf, rfl⟩ := fireTracked_eq h
  obtain ⟨hs, hids⟩ := adds_fire hf
  exact hs.track hids

theorem adds_tell (s : Stage) (event : CoreEvent) (payload : Payload) :
    s.Adds (s.tell event payload).2 := by
  rw [tell]
  cases hf : s.fireTracked event payload with
  | error e => exact .refl s
  | ok s' => exact adds_fireTracked hf

/-! ### Commands at work -/

theorem adds_mint (s : Stage) : s.Adds s.mint.2 := .of_eq rfl

theorem adds_closeInbox (s : Stage) (listener : Nat) (a : CorrelationId) :
    s.Adds (s.closeInbox listener a) := .of_eq rfl

theorem adds_openInbox {a : CorrelationId} {listener : Nat}
    (h : s.openInbox a = .ok (listener, s')) : s.Adds s' := by
  rw [openInbox] at h
  dsimp only at h
  split at h
  · cases h
  · cases h
    exact (adds_mint s).trans (.of_eq rfl)

theorem adds_ask (s : Stage) (session : Session) (command : String) :
    s.Adds (s.ask session command).2 := by
  rw [ask]
  cases ho : s.openInbox session.address with
  | error e => exact .refl s
  | ok opened =>
      obtain ⟨listener, s₁⟩ := opened
      have hopen := adds_openInbox ho
      dsimp only
      cases hf : s₁.fireTracked .onMessage (Payload.ofMessage (session.request command)) with
      | error e => exact hopen.trans (adds_closeInbox s₁ _ _)
      | ok s₂ => exact hopen.trans (adds_fireTracked hf)

theorem adds_converse (s : Stage) (session : Session) (d : Dialogue String) :
    s.Adds (s.converse session d).2 := by
  cases d with
  | done text => exact .refl s
  | fail e => exact .refl s
  | ask command resume =>
      have hask := adds_ask s session command
      rw [converse]
      split
      · rename_i h
        rw [h] at hask
        exact hask
      · rename_i h
        rw [h] at hask
        split
        · exact hask.trans (adds_closeInbox _ _ _)
        · exact hask

theorem adds_runEval (s : Stage) (m : Message) : s.Adds (s.runEval m).2 := by
  rw [runEval]
  split
  · exact .refl s
  · exact .refl s
  · exact (adds_mint s).trans (adds_converse _ _ _)

theorem adds_pollJob (s : Stage) (job : Job) : s.Adds (s.pollJob job).2 := by
  cases job with
  | fresh command m =>
      cases command with
      | eval => exact adds_runEval s m
      | echo | help | custom start => exact .refl s
  | paused time course =>
      rw [pollJob]
      split <;> exact .refl s
  | talking session d => exact adds_converse s session d
  | asking session listener command resume =>
      have hclosed := adds_closeInbox s listener session.address
      rw [pollJob]
      split
      · dsimp only
        split
        · exact hclosed.trans (adds_converse _ _ _)
        · exact hclosed
      · split
        · exact hclosed
        · exact .refl s

theorem adds_report (s : Stage) (result : Except CommandError String) (r : Recipient) :
    s.Adds (s.report result r) := by
  cases r <;> exact .of_eq rfl

theorem adds_work (s : Stage) (r : Recipient) (job : Job) : s.Adds (s.work r job).2 := by
  have hpoll := adds_pollJob s job
  rw [work]
  split
  · rename_i h
    rw [h] at hpoll
    exact hpoll
  · rename_i h
    rw [h] at hpoll
    exact hpoll.trans (adds_report _ _ _)

/-! ### Senders -/

theorem adds_announce (s : Stage) (m : Message) : s.Adds (s.announce m) := by
  rw [announce]
  cases hf : s.fireTracked .onMessageSent (Payload.ofMessage m) with
  | error e => exact .refl s
  | ok s' => exact adds_fireTracked hf

theorem adds_arrive (s : Stage) (h : Handover) : s.Adds (s.arrive h) := by
  rw [arrive]
  split
  · exact adds_announce s _
  · exact .refl s

theorem adds_deliver (s : Stage) (company : Company) (m : Message) :
    s.Adds (s.deliver company m).2 := by
  rw [deliver]
  split
  · exact .refl s
  · split
    · exact adds_announce s m
    · dsimp only
      split
      · exact (Schedule.Adds.of_eq rfl).trans (adds_arrive _ _)
      · exact .of_eq rfl

theorem adds_withOutbox (s : Stage) (f : Outbox → Outbox) : s.Adds (s.withOutbox f) :=
  .of_eq rfl

theorem adds_endSender (s : Stage) (number : Option Nat) (result : Except BotError Unit) :
    s.Adds (s.endSender number result) := by
  cases number with
  | none => exact .refl s
  | some n => exact .of_eq rfl

theorem adds_releaseOutbox (s : Stage) (number : Option Nat) :
    s.Adds (s.releaseOutbox number) :=
  (adds_withOutbox s _).trans (adds_endSender _ _ _)

theorem adds_serve (company : Company) (number : Option Nat) (since : Nat)
    (queue : List Message) (s : Stage) : s.Adds (serve company number since queue s).2 := by
  induction queue generalizing s with
  | nil =>
      rw [serve]
      split
      · exact adds_releaseOutbox s number
      · exact .refl s
  | cons m rest ih =>
      have hout := (adds_withOutbox s fun o => { o with queue := rest }).trans
        (adds_deliver _ company m)
      rw [serve]
      split
      · exact adds_releaseOutbox s number
      · split
        · rename_i h
          rw [h] at hout
          exact hout
        · rename_i h
          rw [h] at hout
          exact hout.trans (ih _)

theorem adds_pollSender (s : Stage) (company : Company) (number : Option Nat)
    (state : SenderState) : s.Adds (s.pollSender company number state).2 := by
  cases state with
  | fresh =>
      rw [pollSender]
      split
      · exact (adds_withOutbox s _).trans (adds_serve _ _ _ _ _)
      · exact adds_endSender s number _
  | listening since => exact adds_serve _ _ _ _ _
  | sending since h time =>
      rw [pollSender]
      split
      · exact (adds_arrive s h).trans (adds_serve _ _ _ _ _)
      · exact .refl s

/-! ### All tasks -/

theorem adds_perform (script : Script) (s : Stage) : s.Adds (perform script s).2 := by
  induction script generalizing s with
  | done => exact .refl s
  | wait span next ih =>
      rw [perform]
      split
      · exact ih s
      · exact .refl s
  | note label payload next ih => exact (Schedule.Adds.of_eq rfl).trans (ih _)
  | fire event payload next ih =>
      rw [perform]
      cases hf : s.fire event payload with
      | error e => exact ih s
      | ok fired => exact (adds_fire hf).1.trans (ih _)
  | mint origin next ih => exact (adds_mint s).trans (ih _ _)

theorem adds_tick (s : Stage) : s.Adds s.tick := by
  rw [tick]
  cases hf : s.fireTracked .onTimerTick (tickPayload s.now) with
  | error e => exact .refl s
  | ok s' => exact adds_fireTracked hf

theorem adds_pollTicker (s : Stage) (next : Option Nat) : s.Adds (s.pollTicker next).2 := by
  cases next with
  | none => exact .refl s
  | some next =>
      rw [pollTicker]
      split
      · exact adds_tick s
      · exact .refl s

theorem adds_launch (s : Stage) (company : Company) (payload : Payload) (h : Handler) :
    s.Adds (s.launch company payload h).2 := by
  cases h with
  | inbox listener a =>
      rw [launch]
      cases Payload.message? payload with
      | none => exact .refl s
      | some m =>
          rw [Option.elim_some, receiveReply]
          split
          · exact .of_eq rfl
          · exact .refl s
  | command serial =>
      rw [launch]
      split
      · exact adds_work s _ _
      · exact .refl s
  | guest name => exact adds_perform _ s

theorem isForward_program (company : Company) : company.program.IsForward := by
  intro a s
  cases a with
  | launched handler payload => exact adds_launch s company payload handler
  | script time script =>
      change s.Adds (if time ≤ s.now then perform script s else _).2
      split
      · exact adds_perform script s
      · exact .refl s
  | job r job => exact adds_work s r job
  | sender number state => exact adds_pollSender s company number state
  | ticker next => exact adds_pollTicker s next

/-! ### Runs -/

theorem atOnce_startTicker (s : Stage) : s.AtOnce s.startTicker := by
  rw [startTicker]
  split
  · exact .refl s
  · exact (Schedule.adds_spawnAll s [.ticker none]).atOnce.trans (.of_eq rfl)

theorem atOnce_stopTicker (s : Stage) : s.AtOnce s.stopTicker := by
  have hs : s.AtOnce (s.modify fun b => { b with ticker := {} }) := .of_eq rfl
  rw [stopTicker]
  cases s.bot.ticker.task with
  | none => exact hs
  | some id => exact hs.trans (Schedule.atOnce_abort _ id)

theorem atOnce_askToSave (s : Stage) : s.AtOnce s.askToSave :=
  (atOnce_stopTicker s).trans (adds_tell _ _ _).atOnce

theorem atOnce_drainTracked (s : Stage) : s.AtOnce s.drainTracked.2 :=
  .of_subset rfl rfl (fun _ h => h) (by simp [drainTracked])

theorem precedes_windUp (company : Company) (s : Stage) : s.Precedes (s.windUp company).2 :=
  ((atOnce_askToSave s).trans (atOnce_drainTracked _)).toPrecedes.trans
    (Schedule.precedes_await (isForward_program company) _ _ _)

theorem Goes.precedes (h : s.Goes company s') : s.Precedes s' := by
  have hp := isForward_program company
  cases h with
  | post m | signalStop | mint => exact (Schedule.AtOnce.of_eq rfl).toPrecedes
  | startSender => exact (Schedule.adds_spawnAll s [.sender none .fresh]).atOnce.toPrecedes
  | startTicker => exact (atOnce_startTicker s).toPrecedes
  | stopTicker => exact (atOnce_stopTicker s).toPrecedes
  | fire hf => exact (adds_fire hf).1.atOnce.toPrecedes
  | tell event payload => exact (adds_tell s event payload).atOnce.toPrecedes
  | settle => exact (Schedule.atOnce_settleWithin hp _ s).toPrecedes
  | advance span => exact Schedule.precedes_advance hp span s
  | await isOver deadline => exact Schedule.precedes_await hp isOver deadline s
  | shutdown => exact (precedes_windUp company s).trans (Schedule.AtOnce.of_eq rfl).toPrecedes

theorem adds_receive (s : Stage) (m : Message) : s.Adds (s.receive m).2 := by
  rw [receive]
  split
  · exact .refl s
  · split
    · exact .refl s
    · exact adds_tell s _ _

/-- In a bot in use only those tasks are tracked that were started. -/
theorem Used.tracked_lt {Q : Listing Handler → Prop} {ms : List Message}
    (h : Used company Q ms s) : ∀ id ∈ s.tracked, id < s.spawned := by
  induction h with
  | start hb hq => simp [ofBot]
  | go _ hg ih => exact hg.precedes.tracked_lt ih
  | @accept ms s s' m _ hr hm ih =>
      have hs := adds_receive s m
      rw [hr] at hs
      exact hs.atOnce.tracked_lt ih
  | edit _ he hq ih => exact ih

/-! ### Shutting down -/

theorem bot_askToSave (s : Stage) : s.askToSave.bot = { s.bot with ticker := {} } := by
  rw [← (Chronicle.bot_stopTicker s).1, askToSave, tell]
  cases hf : s.stopTicker.fireTracked .shouldSave [] with
  | error e => rfl
  | ok s' => exact bot_fireTracked hf

/-- Those who have something to save are asked by tasks that are tracked. -/
theorem mem_tracked_askToSave {ids : List Nat} {id : Nat}
    (hf : s.stopTicker.fire CoreEvent.shouldSave.name [] = .ok (ids, s')) (hid : id ∈ ids) :
    id ∈ s.askToSave.tracked := by
  simp only [askToSave, tell, fireTracked, hf]
  exact List.mem_append_right _ hid

theorem subset_tracked_tell (s : Stage) (event : CoreEvent) (payload : Payload) :
    s.tracked ⊆ (s.tell event payload).2.tracked := by
  rw [tell]
  cases hf : s.fireTracked event payload with
  | error e => exact List.Subset.refl _
  | ok s' =>
      obtain ⟨ids, s₁, hfire, rfl⟩ := fireTracked_eq hf
      obtain ⟨ts, hts⟩ := fire_eq hfire
      rw [Schedule.spawnAll_eq] at hts
      cases hts
      exact List.subset_append_left _ _

/-- What is tracked stays so when the ticker is stopped, but for the ticker itself. -/
theorem mem_tracked_stopTicker {id : Nat} (hid : id ∈ s.tracked) :
    id ∈ s.stopTicker.tracked ∨ s.stopTicker.isLive id = false := by
  rw [stopTicker]
  cases s.bot.ticker.task with
  | none => exact .inl hid
  | some ticker =>
      rw [Option.elim_some]
      by_cases heq : id = ticker
      · exact .inr (heq ▸ Schedule.isLive_abort _ id)
      · exact .inl ((List.mem_erase_of_ne heq).mpr hid)

/-- The stop signal changes no more than what tasks share. -/
theorem signalStop_fields (s : Stage) :
    s.signalStop.now = s.now ∧ s.signalStop.spawned = s.spawned ∧
      s.signalStop.tracked = s.tracked ∧ ∀ id, s.signalStop.isLive id = s.isLive id :=
  ⟨rfl, rfl, rfl, fun _ => rfl⟩

/-- Who waits in time has waited for all that was tracked. -/
theorem isLive_windUp {id : Nat} (h : (s.windUp company).1 = true)
    (hid : id ∈ s.askToSave.tracked) : (s.windUp company).2.isLive id = false := by
  have hover := Schedule.over_await h
  rw [← Bool.not_eq_true']
  exact List.all_eq_true.mp hover id hid

theorem now_windUp_le (s : Stage) (company : Company) :
    (s.windUp company).2.now ≤ s.now + s.bot.config.shutdownTimeout := by
  have hnow : s.askToSave.now = s.now := (atOnce_askToSave s).now
  have hconfig : s.askToSave.bot.config = s.bot.config := by rw [bot_askToSave]
  rw [← hnow, ← hconfig]
  exact Schedule.now_await_le (isForward_program company) _ (Nat.le_add_right _ _)

/-- **What shutdown waits for.**  A bot in use shuts down, and has waited before its time is up.
Then no task is still running that was tracked when the shutdown began, and no listener that was
asked to save.  What is tracked now was started while the bot waited; that is what may still run.
In any case the bot waits no longer than it is allowed to. -/
theorem shutdown_joins {Q : Listing Handler → Prop} {ms : List Message}
    (hs : Used company Q ms s) :
    ((s.windUp company).1 = true →
      (∀ id ∈ s.tracked, (s.shutdown company).isLive id = false) ∧
      (∀ ids s', s.stopTicker.fire CoreEvent.shouldSave.name [] = .ok (ids, s') →
        ∀ id ∈ ids, (s.shutdown company).isLive id = false) ∧
      ∀ id ∈ (s.shutdown company).tracked, s.askToSave.IsNew (s.shutdown company) id) ∧
    (s.shutdown company).now ≤ s.now + s.bot.config.shutdownTimeout := by
  have hjoined : s.askToSave.drainTracked.2.Precedes (s.windUp company).2 :=
    Schedule.precedes_await (isForward_program company) _ _ _
  obtain ⟨hnow, hspawned, htracked, hlive⟩ := signalStop_fields (s.windUp company).2
  rw [shutdown, hnow, htracked]
  refine ⟨fun h => ⟨fun id hid => ?_, fun ids s' hf id hid => ?_, fun id hid => ?_⟩,
    now_windUp_le s company⟩
  · rw [hlive]
    rcases mem_tracked_stopTicker hid with hmem | hdead
    · exact isLive_windUp h (subset_tracked_tell _ _ _ hmem)
    · have hlt := Nat.lt_of_lt_of_le (hs.tracked_lt id hid) (atOnce_stopTicker s).spawned
      have hstopped : s.stopTicker.Precedes (s.windUp company).2 :=
        ((adds_tell _ _ _).atOnce.trans (atOnce_drainTracked _)).toPrecedes.trans hjoined
      exact hstopped.isLive_eq_false hlt hdead
  · rw [hlive]
    exact isLive_windUp h (mem_tracked_askToSave hf hid)
  · obtain ⟨hle, hlt⟩ := (hjoined.tracked id hid).resolve_left List.not_mem_nil
    exact ⟨hle, Nat.lt_of_lt_of_eq hlt hspawned.symm⟩

namespace Sample

/-- A command that takes a second, and a listener that takes a minute for every reply. -/
def edits : List BotEdit :=
  [.add "slow" "" (.custom fun _ => .wait 1000 (.done (.ok "done"))),
    .host (.subscribe CoreEvent.onMessageSent.name
      { target := ⟨Schema.ofMessage, .guest "archive"⟩ })]

def audience : Company where
  guest _ _ _ := .wait 60000 .done

def request : Message where
  body := .text "!slow"
  sender := "alice"
  address := .external "room"

/-- The bot with a sender. -/
def serving : Stage := (ofBot (Bot.Sample.bare.afterEdits edits)).startSender.2

/-- The command is called. -/
def working : Stage := (serving.receive request).2

theorem used_working : Used audience (fun _ => True) [request] working := by
  have hb : Bot.ofConfig {} = .ok Bot.Sample.bare := rfl
  have u₀ : Used audience (fun _ => True) [] (ofBot Bot.Sample.bare) := .start hb trivial
  have u₁ : Used audience (fun _ => True) [] (ofBot (Bot.Sample.bare.afterEdits edits)) :=
    (u₀.edit (e := edits[0]) trivial trivial).edit (e := edits[1]) rfl trivial
  have ha : (serving.receive request).1 = .ok true := by with_unfolding_all rfl
  exact (u₁.go .startSender).accept (m := request) (Prod.ext ha rfl) (by simp [request])

end Sample

/-- The command has ended when the bot has shut down, after a second. -/
theorem shutdown_joins_sample :
    Used Sample.audience (fun _ => True) [Sample.request] Sample.working ∧
      (Sample.working.windUp Sample.audience).1 = true ∧ Sample.working.tracked = [1] ∧
      (Sample.working.shutdown Sample.audience).isLive 1 = false := by
  have hin : (Sample.working.windUp Sample.audience).1 = true := by decide +kernel
  have htracked : Sample.working.tracked = [1] := by decide +kernel
  have hjoined := ((shutdown_joins Sample.used_working).1 hin).1
  exact ⟨Sample.used_working, hin, htracked, hjoined 1 (htracked ▸ List.mem_singleton_self 1)⟩

/-- The reply is announced while the bot waits for the command, and nobody waits for those who listen
to that. -/
theorem shutdown_leaves_listener :
    (Sample.working.windUp Sample.audience).1 = true ∧
      (Sample.working.shutdown Sample.audience).now <
        Sample.working.now + Sample.working.bot.config.shutdownTimeout ∧
      ∃ id ∈ (Sample.working.shutdown Sample.audience).tracked,
        (Sample.working.shutdown Sample.audience).isLive id = true := by
  decide +kernel

end Stage

end ChatBot
