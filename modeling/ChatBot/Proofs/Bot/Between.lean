import ChatBot.Proofs.Bot.Shutdown

/-!
# Between the turns of tasks

A bot at work is in order whenever none of its tasks is in the middle of a turn, whoever does
something to it then.

* `Stage.Befalls` is what someone outside may do between two turns, and `Stage.IsOrderly` what
  holds before and after it.
* `Stage.fires_poll`: a turn starts tasks by fires only, and leaves commands and the ticker alone.
* `Stage.Spares` says that neither the clock nor the ticker was touched, which is so with most of
  what happens to a bot.
-/

namespace ChatBot

/-- However far a task goes, it starts tasks by fires only. -/
theorem Errand.Leads.fires {s s' : Stage} {e : Errand} {next : Option Errand}
    (h : Errand.Leads s e s' next) : ∃ ls, s.Fires s' ls := by
  induction h with
  | refl s e => exact ⟨[], (Stage.Quiet.refl s).toFires⟩
  | ends h hn => exact h.fires
  | more h hn _ ih =>
      obtain ⟨ls, hf⟩ := h.fires
      obtain ⟨ls', hf'⟩ := ih
      exact ⟨_, hf.trans hf'⟩

namespace Stage

variable {s s' : Stage}

theorem fires_poll (hf : s.bot.Filed) (company : Company) (a : Activity) :
    ∃ ls, s.Fires (Stage.poll company a s).2 ls := (Errand.leads_poll hf company a).fires

/-- What it takes for a message to be taken in, and what it starts. -/
theorem receive_ok {m : Message} (hr : (s.receive m).1 = .ok true) :
    m.isAcceptable = true ∧ ∃ ls,
      s.bot.launches CoreEvent.onMessage.name (Payload.ofMessage m.named) = .ok ls ∧
      s.Quiet (s.receive m).2 ls :=
  @Chronicle.receive_ok { stage := s } m (s.receive m).2 (Prod.ext hr rfl)

/-! ### Order -/

/-- Registry and host are in step, tasks and inboxes have numbers of their own, and no task is in
the middle of a turn. -/
def IsOrderly (s : Stage) : Prop :=
  ∃ χ : Chronicle, χ.Orderly ∧ χ.stage = s ∧ χ.running = []

namespace IsOrderly

theorem ofBot {config : Config} {b : Bot} (hb : Bot.ofConfig config = .ok b) :
    (Stage.ofBot b).IsOrderly := ⟨_, Chronicle.orderly_start hb, rfl, rfl⟩

theorem consistent (h : s.IsOrderly) : s.bot.Consistent := by
  obtain ⟨χ, ho, rfl, -⟩ := h
  exact ho.consistent

theorem filed (h : s.IsOrderly) : s.bot.Filed := by
  obtain ⟨χ, ho, rfl, -⟩ := h
  exact ho.filed

/-- Every task has a number that was given out. -/
theorem fresh (h : s.IsOrderly) {t : Nat × Activity} (ht : t ∈ s.ready ++ s.parked) :
    t.1 < s.spawned := by
  obtain ⟨χ, ho, rfl, hr⟩ := h
  exact ho.fresh (t.1, .ofActivity t.2)
    (Chronicle.tasks_of_idle hr ▸ List.mem_map_of_mem ht)

/-- No two tasks have the same number. -/
theorem nodup (h : s.IsOrderly) : ((s.ready ++ s.parked).map (·.1)).Nodup := by
  obtain ⟨χ, ho, rfl, hr⟩ := h
  have hn := ho.nodup
  rw [Chronicle.tasks_of_idle hr, scheduled, List.map_map] at hn
  exact hn

theorem becomes (h : s.IsOrderly) (hb : s.Becomes s') : s'.IsOrderly := by
  obtain ⟨χ, ho, hs, hr⟩ := h
  obtain ⟨χ', -, ho', hs', hr'⟩ := hb χ ho hs hr
  exact ⟨χ', ho', hs', hr'⟩

/-- A message comes in, with whatever address. -/
theorem receive (h : s.IsOrderly) (m : Message) : (s.receive m).2.IsOrderly := by
  by_cases hr : (s.receive m).1 = .ok true
  · obtain ⟨χ, ho, rfl, hrunning⟩ := h
    obtain ⟨-, ls, -, hq⟩ := receive_ok hr
    exact ⟨_, ho.of_shifts (ho.shifts_pass hq.spawns hq.keeps (Chronicle.idle_launches ls)), rfl,
      hrunning⟩
  · rw [receive_eq hr]
    exact h

end IsOrderly

/-! ### What happens between turns -/

/-- What someone outside does between two turns, but for giving the bot messages, and starting and
stopping its ticker. -/
inductive Befalls (s : Stage) : Stage → Prop where
  /-- A message is queued. -/
  | post (m : Message) : Befalls s (s.post m)
  /-- A sender is started, or a command that someone attends to. -/
  | spawn {a : Activity} (ha : a.IsStart) : Befalls s (s.spawn a).2
  /-- Senders are asked to stop. -/
  | signalStop : Befalls s s.signalStop
  /-- Someone mints an id. -/
  | mint : Befalls s s.mint.2
  /-- Someone fires, and keeps track of the tasks or not. -/
  | fire {event : String} {payload : Payload} {ids : List Nat} {s' : Stage}
      (hf : s.fire event payload = .ok (ids, s')) : Befalls s s'
  | tell (event : CoreEvent) (payload : Payload) : Befalls s (s.tell event payload).2
  /-- Commands are added and removed, or someone changes the host. -/
  | edit {e : BotEdit} (he : e.IsUnrelated) : Befalls s (s.modify fun b => (b.edit e).2)

/-- Where everything is left as it is but for the order of tasks. -/
theorem becomes_of_perm (hb : s'.bot = s.bot) (hs : s'.spawned = s.spawned) (hn : s.now ≤ s'.now)
    (ht : (s'.ready ++ s'.parked).Perm (s.ready ++ s.parked)) : s.Becomes s' := by
  rintro χ ho rfl hr
  refine ho.getsTo_reschedule hb hs hn ?_
  rw [Chronicle.tasks_of_idle hr, List.append_nil]
  exact ht.map _

/-- Tasks are started, and that is all that happens to tasks. -/
theorem Befalls.exists_spawns (h : s.Befalls s') : ∃ ts, s.Spawns s' ts := by
  cases h with
  | @spawn a ha => exact ⟨[a], spawns_spawn s a⟩
  | fire hf =>
      obtain ⟨ls, -, hq⟩ := quiet_fire hf
      exact ⟨_, hq.spawns⟩
  | tell event payload =>
      rw [Stage.tell]
      cases hf : s.fireTracked event payload with
      | error e => exact ⟨[], .refl s⟩
      | ok s' =>
          obtain ⟨ls, -, hq⟩ := quiet_fireTracked hf
          exact ⟨_, hq.spawns⟩
  | post | signalStop | mint | edit => exact ⟨[], (List.append_nil _).symm, rfl, rfl⟩

theorem IsOrderly.befalls (h : s.IsOrderly) (hb : s.Befalls s') : s'.IsOrderly := by
  obtain ⟨χ, ho, rfl, hr⟩ := h
  cases hb with
  | post m => exact IsOrderly.becomes ⟨χ, ho, rfl, hr⟩ (becomes_post _ m)
  | spawn ha => exact ⟨_, ho.step (.spawn ha), rfl, hr⟩
  | signalStop => exact ⟨_, ho.step .stop, rfl, hr⟩
  | mint => exact ⟨_, ho.step .mint, rfl, hr⟩
  | fire hf => exact ⟨_, ho.step (.fire hf), rfl, hr⟩
  | tell event payload => exact IsOrderly.becomes ⟨χ, ho, rfl, hr⟩ (becomes_tell _ event payload)
  | edit he => exact ⟨_, ho.step (.edit he), rfl, hr⟩

end Stage

/-! ### The clock and the ticker -/

/-- Whether an activity is the ticker. -/
def Activity.isTicker : Activity → Bool
  | .ticker _ => true
  | _ => false

namespace Stage

variable {s s' : Stage}

/-- The tasks that tick. -/
def tickers (s : Stage) : List (Nat × Activity) := (s.ready ++ s.parked).filter (·.2.isTicker)

theorem tickers_park (s : Stage) (t : Nat × Activity) :
    tickers { s with parked := s.parked ++ [t] } = s.tickers ++ [t].filter (·.2.isTicker) := by
  rw [tickers, tickers, ← List.append_assoc, List.filter_append]

theorem tickers_abort (s : Stage) (id : Nat) :
    tickers (s.abort id) = s.tickers.filter (·.1 != id) := by
  change (s.ready.filter _ ++ s.parked.filter _).filter _ = _
  rw [tickers, ← List.filter_append, List.filter_filter, List.filter_filter]
  simp only [Bool.and_comm]

/-- Neither the clock nor the ticker was touched. -/
structure Spares (s s' : Stage) : Prop where
  now : s'.now = s.now
  ticker : s'.bot.ticker = s.bot.ticker
  config : s'.bot.config = s.bot.config
  tickers : s'.tickers.Perm s.tickers

namespace Spares

theorem refl (s : Stage) : s.Spares s := ⟨rfl, rfl, rfl, .refl _⟩

theorem trans {s'' : Stage} (h : s.Spares s') (h' : s'.Spares s'') : s.Spares s'' :=
  ⟨h'.now.trans h.now, h'.ticker.trans h.ticker, h'.config.trans h.config,
    h'.tickers.trans h.tickers⟩

theorem wake (p : Program Bot Activity) (s : Stage) : s.Spares (s.wake p) := by
  obtain ⟨hbot, -, hnow⟩ := wake_eq p s
  exact ⟨hnow, congrArg _ hbot, congrArg _ hbot, (Schedule.perm_wake p s).filter _⟩

theorem of_spawns {ts : List Activity} (h : s.Spawns s' ts)
    (hts : ∀ a ∈ ts, a.isTicker = false) (hn : s'.now = s.now)
    (ht : s'.bot.ticker = s.bot.ticker) (hc : s'.bot.config = s.bot.config) : s.Spares s' where
  now := hn
  ticker := ht
  config := hc
  tickers := by
    have hnew : (numbered s.spawned ts).filter (·.2.isTicker) = [] := by
      rw [List.filter_eq_nil_iff]
      intro t ht
      simp [hts t.2 (le_of_mem_numbered ht).2.2]
    rw [Stage.tickers, Stage.tickers, h.ready, h.parked, List.append_assoc, List.filter_append,
      List.filter_append, hnew, List.nil_append, ← List.filter_append]

theorem of_fires {ls : List (Launch Handler)} (h : s.Fires s' ls) (hn : s'.now = s.now) :
    s.Spares s' :=
  .of_spawns h.spawns (by simp only [List.forall_mem_map]; exact fun l _ => rfl) hn
    h.keeps.ticker h.keeps.config

theorem receive (s : Stage) (m : Message) : s.Spares (s.receive m).2 := by
  by_cases hr : (s.receive m).1 = .ok true
  · obtain ⟨-, ls, -, hq⟩ := receive_ok hr
    exact .of_fires hq.toFires (adds_receive s m).now
  · rw [receive_eq hr]
    exact .refl s

theorem befalls (ho : s.IsOrderly) (h : s.Befalls s') : s.Spares s' := by
  cases h with
  | post m => exact .of_fires (fires_post s m) rfl
  | @spawn a ha =>
      refine .of_spawns (spawns_spawn s a) ?_ rfl rfl rfl
      rw [List.forall_mem_singleton]
      cases a with
      | ticker next => exact ha.elim
      | _ => rfl
  | signalStop => exact .of_fires (fires_withOutbox s _) rfl
  | mint => exact .of_fires (quiet_mint s).toFires rfl
  | fire hf =>
      obtain ⟨ls, -, hq⟩ := quiet_fire hf
      exact .of_fires hq.toFires (adds_fire hf).1.now
  | tell event payload =>
      rw [tell]
      cases hf : s.fireTracked event payload with
      | error e => exact .refl s
      | ok s' =>
          obtain ⟨ls, -, hq⟩ := quiet_fireTracked hf
          exact .of_fires hq.toFires (adds_fireTracked hf).now
  | @edit e he =>
      have hg := (ho.consistent.carried he).grows
      exact .of_spawns (spawns_modify s _) (fun _ ha => absurd ha List.not_mem_nil) rfl
        (Bot.edit_spares s.bot e).1 hg.config

theorem tick (s : Stage) : s.Spares s.tick := by
  obtain ⟨ls, hq⟩ := quiet_tick s
  exact .of_fires hq.toFires (adds_tick s).now

theorem poll (hf : s.bot.Filed) (company : Company) (a : Activity) :
    s.Spares (Stage.poll company a s).2 := by
  obtain ⟨ls, h⟩ := fires_poll hf company a
  exact .of_fires h (isForward_program company a s).now

end Spares

theorem config_startTicker (s : Stage) : s.startTicker.bot.config = s.bot.config := by
  rw [startTicker]
  split <;> rfl

theorem config_step? {company : Company} (ho : s.IsOrderly)
    (hs : s.step? company.program = some s') : s'.bot.config = s.bot.config := by
  obtain ⟨hbot, -, -⟩ := wake_eq company.program s
  obtain ⟨id, a, rest, turned, s₁, -, hpoll, rfl⟩ := Schedule.step?_eq_some hs
  change Stage.poll company a _ = _ at hpoll
  have hf : (Stage.bot { s.wake company.program with ready := rest }).Filed := hbot ▸ ho.filed
  obtain ⟨ls, hfires⟩ := fires_poll hf company a
  rw [hpoll] at hfires
  cases turned <;> exact hfires.keeps.config.trans (congrArg Bot.config hbot)

end Stage

end ChatBot
