import ChatBot.Proofs.Bot.Between
import ChatBot.Proofs.Bot.Intervals

/-!
# The ticker keeps time

The ticker ticks at even intervals from the start that got it going until it is stopped, whatever
else the bot does, and whether or not a tick can be fired.

* `Stage.TicksAt` is when the ticker of a bot ticks next.
* `Stage.Clocked` is a bot at work, with what is written down about its ticker, and
  `Stage.Clocked.ticks` says that this ticker is one on a clock.
* `Stage.TellsTime` is what a tick is, and `Stage.Clocked.exists_turn` finds the turn of a tick that
  is written down.
* `Stage.ticks_on_schedule`: when the ticker of a bot ticks.
-/

namespace ChatBot

namespace Stage

variable {company : Company} {s s' : Stage} {next : Option Nat} {log : List Ticker.Entry}

/-! ### Turns of others -/

theorem isTicker_perform {script : Script} {a : Activity}
    (h : (perform script s).1 = some a) : a.isTicker = false := by
  induction script generalizing s with
  | done => cases h
  | wait span next ih =>
      rw [perform] at h
      split at h
      · exact ih h
      · cases h
        rfl
  | note label payload next ih => exact ih h
  | fire event payload next ih =>
      rw [perform] at h
      split at h <;> exact ih h
  | mint origin next ih => exact ih _ h

theorem isTicker_work {recipient : Recipient} {job : Job} {a : Activity}
    (h : (s.work recipient job).1 = some a) : a.isTicker = false := by
  rw [work] at h
  split at h
  · cases h
    rfl
  · cases h

/-- No other task becomes the ticker. -/
theorem isTicker_poll {a a' : Activity} (ha : a.isTicker = false)
    (h : (poll company a s).1 = some a') : a'.isTicker = false := by
  cases a with
  | launched handler payload =>
      cases handler with
      | inbox listener address => cases h
      | command serial =>
          rw [poll, launch] at h
          split at h
          · exact isTicker_work h
          · cases h
      | guest name => exact isTicker_perform h
  | script time script =>
      rw [poll] at h
      split at h
      · exact isTicker_perform h
      · cases h
        rfl
  | job recipient job => exact isTicker_work h
  | sender number state =>
      obtain ⟨state', -, rfl⟩ := Option.map_eq_some_iff.mp h
      rfl
  | ticker next => cases ha

/-! ### When it ticks next -/

/-- When the ticker ticks next, if it is started. -/
inductive TicksAt (s : Stage) : Option Nat → Prop where
  | stopped (ht : s.bot.ticker = {}) (hl : s.tickers = []) : TicksAt s none
  | fresh {id : Nat} (ht : s.bot.ticker = ⟨true, some id⟩)
      (hl : s.tickers = [(id, .ticker none)]) :
      TicksAt s (some (s.now + s.bot.config.tickInterval))
  | waiting {id next : Nat} (ht : s.bot.ticker = ⟨true, some id⟩)
      (hl : s.tickers = [(id, .ticker (some next))]) : TicksAt s (some next)

namespace TicksAt

theorem running (h : s.TicksAt next) : s.bot.ticker.running = next.isSome := by
  cases h with
  | stopped ht | fresh ht | waiting ht => rw [ht]; rfl

/-- There is one task that ticks, or none. -/
theorem length_tickers (h : s.TicksAt next) : s.tickers.length = next.toList.length := by
  cases h with
  | stopped ht hl | fresh ht hl | waiting ht hl => rw [hl]; rfl

theorem spares (h : s.TicksAt next) (hs : s.Spares s') : s'.TicksAt next := by
  have hp := hs.tickers
  cases h with
  | stopped ht hl =>
      rw [hl, List.perm_nil] at hp
      exact .stopped (hs.ticker.trans ht) hp
  | fresh ht hl =>
      rw [hl, List.perm_singleton] at hp
      rw [← hs.now, ← hs.config]
      exact .fresh (hs.ticker.trans ht) hp
  | waiting ht hl =>
      rw [hl, List.perm_singleton] at hp
      exact .waiting (hs.ticker.trans ht) hp

theorem startTicker (h : s.TicksAt next) (hz : s.bot.config.tickInterval = 0 → next = none) :
    s.startTicker.TicksAt (if s.bot.config.tickInterval = 0 then none
      else some (next.getD (s.now + s.bot.config.tickInterval))) := by
  rw [Stage.startTicker]
  by_cases hp : s.bot.config.tickInterval = 0
  · simp only [hp, decide_true, Bool.true_or, if_true]
    exact hz hp ▸ h
  · simp only [hp, decide_false, Bool.false_or, if_false, h.running]
    cases next with
    | some next => exact h
    | none =>
        cases h with
        | stopped ht hl =>
            refine @TicksAt.fresh _ s.spawned rfl ?_
            rw [tickers, List.filter_append, List.append_eq_nil_iff] at hl
            change ((s.ready ++ [(s.spawned, Activity.ticker none)]) ++ s.parked).filter _ = _
            rw [List.filter_append, List.filter_append, hl.1, hl.2]
            rfl

theorem stopTicker (h : s.TicksAt next) : s.stopTicker.TicksAt none := by
  have hstopped : ∀ id, s.tickers.filter (·.1 != id) = [] →
      TicksAt (Schedule.abort (s.modify fun b => { b with ticker := {} }) id) none :=
    fun id hl => .stopped rfl ((tickers_abort _ id).trans hl)
  rw [Stage.stopTicker]
  cases h with
  | stopped ht hl =>
      rw [ht]
      exact .stopped rfl hl
  | @fresh id ht hl =>
      rw [ht]
      exact hstopped id (by simp [hl])
  | @waiting id next ht hl =>
      rw [ht]
      exact hstopped id (by simp [hl])

/-- The ticker waits for its next tick. -/
theorem park {id : Nat} (ht : s.bot.ticker = ⟨true, some id⟩) (hl : s.tickers = [])
    (hs : s.Spares s') (time : Nat) :
    TicksAt { s' with parked := s'.parked ++ [(id, .ticker (some time))] } (some time) := by
  refine .waiting (hs.ticker.trans ht) ?_
  have hnone := hs.tickers
  rw [hl, List.perm_nil] at hnone
  rw [tickers_park, hnone]
  rfl

/-- The ticker has its turn: it ticks, or just goes on waiting. -/
theorem turn {s₁ : Stage} {id : Nat} {waiting : Option Nat} {rest : List (Nat × Activity)}
    {turned : Option Activity} (h : s.TicksAt next)
    (hr : s.ready = (id, .ticker waiting) :: rest)
    (hp : Stage.poll company (.ticker waiting) { s with ready := rest } = (turned, s₁)) :
    ∃ next', turned = some (.ticker next') ∧
      TicksAt { s₁ with parked := s₁.parked ++ [(id, .ticker next')] } next' ∧
      ((next' = next ∧ ∀ time, waiting = some time → s.now < time) ∨
        ∃ time ≤ s.now, waiting = some time ∧ next = some time ∧
          next' = some (time + s.bot.config.tickInterval)) := by
  -- there is no other ticker
  have hself : s.tickers = (id, .ticker waiting) :: tickers { s with ready := rest } := by
    rw [tickers, hr]
    rfl
  cases h with
  | stopped ht hl =>
      rw [hl] at hself
      cases hself
  | fresh ht hl =>
      rw [hl] at hself
      obtain ⟨heq, hrest⟩ := List.cons.inj hself
      cases heq
      have hrun : (Stage.bot { s with ready := rest }).ticker.running = true :=
        congrArg Ticker.running ht
      rw [Stage.poll, pollTicker, if_pos hrun] at hp
      cases hp
      exact ⟨_, rfl, park (s := { s with ready := rest }) ht hrest.symm (.refl _) _,
        .inl ⟨rfl, by simp⟩⟩
  | @waiting _ time ht hl =>
      rw [hl] at hself
      obtain ⟨heq, hrest⟩ := List.cons.inj hself
      cases heq
      rw [Stage.poll, pollTicker] at hp
      by_cases hle : time ≤ s.now
      · have hs : Spares { s with ready := rest } (tick { s with ready := rest }) := .tick _
        have hrun : (Stage.bot (tick { s with ready := rest })).ticker.running = true := by
          rw [hs.ticker]
          exact congrArg Ticker.running ht
        rw [if_pos hle] at hp
        dsimp only at hp
        rw [if_pos hrun, hs.config] at hp
        cases hp
        exact ⟨_, rfl, park (s := { s with ready := rest }) ht hrest.symm hs _,
          .inr ⟨time, hle, rfl, rfl, rfl⟩⟩
      · rw [if_neg hle] at hp
        cases hp
        refine ⟨_, rfl, park (s := { s with ready := rest }) ht hrest.symm (.refl _) _,
          .inl ⟨rfl, fun time' h => ?_⟩⟩
        exact Option.some.inj h ▸ Nat.lt_of_not_le hle

end TicksAt

/-! ### A bot on a clock -/

/-- What is written down about the ticker in the next turn: the ticker may tick. -/
def ticking (company : Company) (s : Stage) : List Ticker.Entry :=
  match (s.wake company.program).ready with
  | (_, .ticker (some time)) :: _ => if time ≤ s.now then [⟨s.now, .tick⟩] else []
  | _ => []

/-- A bot at work, with what is written down about its ticker.  The clock moves when no task has
a turn, and no further than to the next time that one of them waits for. -/
inductive Clocked (company : Company) : List Ticker.Entry → Stage → Prop where
  | begin {config : Config} {b : Bot} (hb : Bot.ofConfig config = .ok b) :
      Clocked company [] (.ofBot b)
  | start {log : List Ticker.Entry} {s : Stage} (h : Clocked company log s) :
      Clocked company (log ++ [⟨s.now, .start⟩]) s.startTicker
  | stop {log : List Ticker.Entry} {s : Stage} (h : Clocked company log s) :
      Clocked company (log ++ [⟨s.now, .stop⟩]) s.stopTicker
  | turn {log : List Ticker.Entry} {s s' : Stage} (h : Clocked company log s)
      (hs : s.step? company.program = some s') : Clocked company (log ++ s.ticking company) s'
  | wait {log : List Ticker.Entry} {s : Stage} (h : Clocked company log s) (time : Nat)
      (hs : s.step? company.program = none)
      (hd : ∀ due, s.nextDue company.program = some due → time ≤ due) :
      Clocked company log (s.jump time)
  | receive {log : List Ticker.Entry} {s : Stage} (h : Clocked company log s) (m : Message) :
      Clocked company log (s.receive m).2
  | befall {log : List Ticker.Entry} {s s' : Stage} (h : Clocked company log s)
      (hb : s.Befalls s') : Clocked company log s'
  | drain {log : List Ticker.Entry} {s : Stage} (h : Clocked company log s) :
      Clocked company log s.drainTracked.2

/-- A turn: the ticker ticks, or it goes on waiting. -/
theorem TicksAt.step? (h : s.TicksAt next) (ho : s.IsOrderly)
    (hs : s.step? company.program = some s') :
    s'.now = s.now ∧ s'.bot.config = s.bot.config ∧
      ((s.ticking company = [] ∧ s'.TicksAt next) ∨
        ∃ time ≤ s.now, next = some time ∧ s.ticking company = [⟨s.now, .tick⟩] ∧
          s'.TicksAt (some (time + s.bot.config.tickInterval))) := by
  have hw := Spares.wake company.program s
  have hwoken := h.spares hw
  have hf : (Stage.bot (s.wake company.program)).Filed :=
    (wake_eq company.program s).1 ▸ ho.filed
  obtain ⟨id, a, rest, turned, s₁, hready, hpoll, rfl⟩ := Schedule.step?_eq_some hs
  change Stage.poll company a _ = _ at hpoll
  have hturn : Spares { s.wake company.program with ready := rest } s₁ := by
    have hp := Spares.poll (s := { s.wake company.program with ready := rest }) hf company a
    rw [hpoll] at hp
    exact hp
  have hnow : s₁.now = s.now := hturn.now.trans hw.now
  have hconfig : (Stage.bot s₁).config = s.bot.config := hturn.config.trans hw.config
  cases ha : a.isTicker with
  | true =>
      cases a with
      | ticker waiting =>
          obtain ⟨next', rfl, hnext, hcase⟩ := hwoken.turn hready hpoll
          refine ⟨hnow, hconfig, ?_⟩
          rw [ticking, hready]
          rcases hcase with ⟨rfl, hlater⟩ | ⟨time, hle, rfl, rfl, rfl⟩
          · refine .inl ⟨?_, hnext⟩
            cases waiting with
            | none => rfl
            | some time => exact if_neg (Nat.not_le_of_lt (hw.now ▸ hlater time rfl))
          · rw [hw.now] at hle
            rw [hw.config] at hnext ⊢
            exact .inr ⟨time, hle, rfl, if_pos hle, hnext⟩
      | launched | script | job | sender => cases ha
  | false =>
      have hnone : s.ticking company = [] := by
        rw [ticking, hready]
        cases a with
        | ticker waiting => cases ha
        | _ => rfl
      have hrest :
          Spares (s.wake company.program) { s.wake company.program with ready := rest } := by
        refine ⟨rfl, rfl, rfl, ?_⟩
        rw [tickers, tickers, hready, List.cons_append, List.filter_cons_of_neg (by simp [ha])]
      have hend := hwoken.spares (hrest.trans hturn)
      cases turned with
      | none => exact ⟨hnow, hconfig, .inl ⟨hnone, hend.spares ⟨rfl, rfl, rfl, .refl _⟩⟩⟩
      | some a' =>
          have ha' : a'.isTicker = false := isTicker_poll ha (congrArg Prod.fst hpoll)
          refine ⟨hnow, hconfig, .inl ⟨hnone, hend.spares ⟨rfl, rfl, rfl, ?_⟩⟩⟩
          rw [tickers_park, List.filter_cons_of_neg (by simp [ha']), List.filter_nil,
            List.append_nil]

/-- Where no task has a turn, the ticker waits. -/
theorem waits_of_mem_tickers (hs : s.step? company.program = none) {t : Nat × Activity}
    (ht : t ∈ s.tickers) :
    t ∈ s.parked ∧ Schedule.mayGoOn company.program s t.2 = false := by
  obtain ⟨hready, hwaits⟩ := Schedule.waits_of_step?_eq_none hs
  rw [tickers, hready] at ht
  exact ⟨List.mem_of_mem_filter ht, hwaits t (List.mem_of_mem_filter ht)⟩

/-- It waits for a time that is still to come, and nobody waits for longer than that. -/
theorem TicksAt.rest (h : s.TicksAt next) (hs : s.step? company.program = none) {time : Nat}
    (hn : next = some time) :
    s.now < time ∧ ∃ due, s.nextDue company.program = some due ∧ due ≤ time := by
  cases h with
  | stopped ht hl => cases hn
  | fresh ht hl => cases (waits_of_mem_tickers hs (hl ▸ List.mem_singleton_self _)).2
  | waiting ht hl =>
      cases hn
      obtain ⟨hmem, hmay⟩ := waits_of_mem_tickers hs (hl ▸ List.mem_singleton_self _)
      have hlt : decide (time ≤ s.now) = false := hmay
      exact ⟨Nat.lt_of_not_le (of_decide_eq_false hlt), Schedule.exists_nextDue_le hmem rfl⟩

theorem TicksAt.jump (h : s.TicksAt next) (hs : s.step? company.program = none) (time : Nat) :
    TicksAt (s.jump time) next := by
  cases h with
  | stopped ht hl => exact .stopped ht hl
  -- a ticker that has just been started has a turn
  | fresh ht hl => cases (waits_of_mem_tickers hs (hl ▸ List.mem_singleton_self _)).2
  | waiting ht hl => exact .waiting ht hl

/-- The ticker of a bot is one on a clock. -/
theorem Clocked.ticks (h : Clocked company log s) :
    s.IsOrderly ∧ ∃ next, s.TicksAt next ∧
      Ticker.Ticks s.bot.config.tickInterval log s.now next := by
  induction h with
  | begin hb =>
      obtain ⟨host, rfl, -⟩ := Bot.ofConfig_ok hb
      exact ⟨.ofBot hb, none, .stopped rfl rfl, .begin _⟩
  | @start log s h ih =>
      obtain ⟨ho, next, ht, hticks⟩ := ih
      have hz := fun hp : s.bot.config.tickInterval = 0 => (hticks.eq_none_of_zero hp).1
      refine ⟨ho.becomes (becomes_startTicker s), _, ht.startTicker hz, ?_⟩
      rw [config_startTicker, (atOnce_startTicker s).now]
      exact hticks.start
  | @stop log s h ih =>
      obtain ⟨ho, next, ht, hticks⟩ := ih
      refine ⟨ho.becomes (becomes_stopTicker s), none, ht.stopTicker, ?_⟩
      rw [(Chronicle.bot_stopTicker s).1, (atOnce_stopTicker s).now]
      exact hticks.stop
  | @turn log s s' h hs ih =>
      obtain ⟨ho, next, ht, hticks⟩ := ih
      obtain ⟨hnow, hconfig, hcase⟩ := ht.step? ho hs
      refine ⟨ho.becomes (becomes_step? hs), ?_⟩
      rw [hnow, hconfig]
      rcases hcase with ⟨hnone, ht'⟩ | ⟨time, hle, rfl, htick, ht'⟩
      · rw [hnone, List.append_nil]
        exact ⟨next, ht', hticks⟩
      · -- the tick is not late
        obtain rfl : time = s.now := Nat.le_antisymm hle (hticks.le_next rfl)
        rw [htick]
        exact ⟨_, ht', hticks.tick⟩
  | @wait log s h time hs hd ih =>
      obtain ⟨ho, next, ht, hticks⟩ := ih
      refine ⟨ho.becomes (becomes_jump s time), ?_⟩
      have hle : ∀ n, next = some n → max s.now time ≤ n := by
        intro n hn
        obtain ⟨hlt, due, hdue, hle⟩ := ht.rest hs hn
        exact Nat.max_le.mpr ⟨Nat.le_of_lt hlt, Nat.le_trans (hd due hdue) hle⟩
      exact ⟨next, ht.jump hs time, hticks.wait (Nat.le_max_left _ _) hle⟩
  | @receive log s h m ih =>
      obtain ⟨ho, next, ht, hticks⟩ := ih
      have hs := Spares.receive s m
      exact ⟨ho.receive m, next, ht.spares hs, hs.config ▸ hs.now ▸ hticks⟩
  | befall h hb ih =>
      obtain ⟨ho, next, ht, hticks⟩ := ih
      have hs := Spares.befalls ho hb
      exact ⟨ho.befalls hb, next, ht.spares hs, hs.config ▸ hs.now ▸ hticks⟩
  | drain h ih =>
      obtain ⟨ho, next, ht, hticks⟩ := ih
      exact ⟨ho.becomes (becomes_of_eq rfl rfl (Nat.le_refl _) rfl), next,
        ht.spares ⟨rfl, rfl, rfl, .refl _⟩, hticks⟩

/-! ### What a tick is -/

/-- Everybody is told what time it is: those who listen to the event are started, and kept track of.
Where it cannot be fired, nobody is. -/
inductive TellsTime (s s' : Stage) : Prop where
  | fired {launches : List (Launch Handler)}
      (hl : s.bot.launches CoreEvent.onTimerTick.name (tickPayload s.now) = .ok launches)
      (hr : ∃ others, s'.ready = others ++ numbered s.spawned (launches.map Launch.activity))
      (hs : s'.spawned = s.spawned + launches.length)
      (ht : s'.tracked = s.tracked ++ List.range' s.spawned launches.length)
  | refused {e : EventError}
      (hl : s.bot.launches CoreEvent.onTimerTick.name (tickPayload s.now) = .error e)
      (hs : s'.spawned = s.spawned) (ht : s'.tracked = s.tracked)

theorem tellsTime_tick (s : Stage) : s.TellsTime s.tick := by
  rw [tick]
  cases hl : s.bot.launches CoreEvent.onTimerTick.name (tickPayload s.now) with
  | error e =>
      rw [fireTracked, fire, hl]
      exact .refused hl rfl rfl
  | ok launches =>
      rw [fireTracked, fire, hl]
      change TellsTime s (Schedule.track (s.spawnAll (launches.map Launch.activity)).2
        (s.spawnAll (launches.map Launch.activity)).1)
      rw [Schedule.spawnAll_eq, List.length_map]
      exact .fired hl ⟨s.ready, rfl⟩ rfl rfl

/-- In the turn in which a tick is written down, everybody is told the time. -/
theorem TicksAt.tellsTime (h : s.TicksAt next) (hs : s.step? company.program = some s')
    (ht : s.ticking company ≠ []) : s.ticking company = [⟨s.now, .tick⟩] ∧ s.TellsTime s' := by
  have hw := Spares.wake company.program s
  obtain ⟨hbot, hspawned, hnow⟩ := wake_eq company.program s
  have htracked := Schedule.tracked_wake company.program s
  obtain ⟨id, a, rest, turned, s₁, hready, hpoll, rfl⟩ := Schedule.step?_eq_some hs
  change Stage.poll company a _ = _ at hpoll
  rw [ticking, hready] at ht ⊢
  split at ht
  · rename_i id' time rest' heq
    cases heq
    have hle : time ≤ s.now := by
      by_contra hlt
      exact ht (if_neg hlt)
    obtain ⟨next', rfl, -⟩ := (h.spares hw).turn hready hpoll
    refine ⟨if_pos hle, ?_⟩
    rw [poll, pollTicker, if_pos (hnow ▸ hle)] at hpoll
    dsimp only at hpoll
    obtain rfl := congrArg Prod.snd hpoll
    rcases tellsTime_tick { s.wake company.program with ready := rest } with
      ⟨hl, hr, hs', ht'⟩ | ⟨hl, hs', ht'⟩
    · exact .fired (hbot ▸ hnow ▸ hl) (hspawned ▸ hr) (hs'.trans (hspawned ▸ rfl))
        (ht'.trans (htracked ▸ hspawned ▸ rfl))
    · exact .refused (hbot ▸ hnow ▸ hl) (hs'.trans hspawned) (ht'.trans htracked)
  · exact absurd rfl ht

/-- The ticker has the next turn. -/
def TickerIsNext (company : Company) (s : Stage) : Prop :=
  ∃ id waiting rest, (s.wake company.program).ready = (id, .ticker waiting) :: rest

/-- In its other turns the ticker starts nothing. -/
theorem spawned_of_tickerIsNext (hs : s.step? company.program = some s')
    (ht : s.ticking company = []) (hn : s.TickerIsNext company) : s'.spawned = s.spawned := by
  obtain ⟨-, hspawned, hnow⟩ := wake_eq company.program s
  obtain ⟨id, waiting, rest, hnext⟩ := hn
  obtain ⟨id', a, rest', turned, s₁, hready, hpoll, rfl⟩ := Schedule.step?_eq_some hs
  change Stage.poll company a _ = _ at hpoll
  cases hnext.symm.trans hready
  have hs₁ : s₁ = { s.wake company.program with ready := rest } := by
    cases waiting with
    | none => exact (congrArg Prod.snd hpoll).symm
    | some time =>
        rw [ticking, hready] at ht
        have hlt : ¬ time ≤ s.now := fun hle => by simp [hle] at ht
        rw [poll, pollTicker, if_neg (hnow ▸ hlt)] at hpoll
        exact (congrArg Prod.snd hpoll).symm
  rw [hs₁]
  cases turned <;> exact hspawned

/-- Behind every tick that is written down there is a turn in which everybody was told the time. -/
theorem Clocked.exists_turn (h : Clocked company log s) {before after : List Ticker.Entry}
    {time : Nat} (hlog : log = before ++ ⟨time, .tick⟩ :: after) :
    ∃ s₀ s₁, Clocked company before s₀ ∧ s₀.now = time ∧ s₀.step? company.program = some s₁ ∧
      s₀.TellsTime s₁ := by
  induction h generalizing after with
  | begin hb => simp at hlog
  | start h ih | stop h ih =>
      rcases Ticker.concat_eq_split hlog with ⟨-, -, he⟩ | ⟨after', -, hlog⟩
      · cases he
      · exact ih hlog
  | @turn log s s' h hs ih =>
      by_cases ht : s.ticking company = []
      · rw [ht, List.append_nil] at hlog
        exact ih hlog
      · obtain ⟨-, next, hnext, -⟩ := h.ticks
        obtain ⟨htick, htells⟩ := hnext.tellsTime hs ht
        rw [htick] at hlog
        rcases Ticker.concat_eq_split hlog with ⟨-, rfl, he⟩ | ⟨after', -, hlog⟩
        · cases he
          exact ⟨s, s', h, rfl, hs, htells⟩
        · exact ih hlog
  | wait h time hs hd ih => exact ih hlog
  | receive h m ih => exact ih hlog
  | befall h hb ih => exact ih hlog
  | drain h ih => exact ih hlog

/-- **The ticker keeps its schedule.**  Where there is no interval it never runs and never ticks.
Where there is one, it has ticked exactly when ticks were due, at times at which it was not stopped
as well: always some intervals after a start that got it going, with no stop in between, and never
twice.  It runs exactly from such a start to the next stop.  Another start changes nothing, and
there is one task that ticks while the ticker runs, and none otherwise.  When it ticks, the event is
fired with the time of the tick; in its other turns it starts nothing.  All of this holds whatever
else is done to the bot, also where the event is destroyed and ticks cannot be fired. -/
theorem ticks_on_schedule (h : Clocked company log s) :
    (s.bot.config.tickInterval = 0 →
      s.bot.ticker.running = false ∧ ∀ e ∈ log, e.mark ≠ .tick) ∧
    (s.bot.config.tickInterval ≠ 0 →
      (∀ time, (time < s.now ∨ time = s.now ∧ s.step? company.program = none) →
        ⟨time, .stop⟩ ∉ log →
        (⟨time, .tick⟩ ∈ log ↔ Ticker.IsDue s.bot.config.tickInterval log time)) ∧
      (∀ before time after, log = before ++ ⟨time, .tick⟩ :: after →
        ∃ earlier first later k, before = earlier ++ ⟨first, .start⟩ :: later ∧
          Ticker.since earlier = none ∧ (∀ e ∈ later, e.mark ≠ .stop) ∧
          1 ≤ k ∧ time = first + k * s.bot.config.tickInterval) ∧
      (∀ time, log.count ⟨time, .tick⟩ ≤ 1) ∧
      s.bot.ticker.running = (Ticker.since log).isSome) ∧
    (s.bot.ticker.running = true → s.startTicker = s) ∧
    (s.tickers.length = if s.bot.ticker.running then 1 else 0) ∧
    (∀ before time after, log = before ++ ⟨time, .tick⟩ :: after →
      ∃ s₀ s₁, Clocked company before s₀ ∧ s₀.now = time ∧ s₀.step? company.program = some s₁ ∧
        s₀.TellsTime s₁) ∧
    ∀ s', s.step? company.program = some s' → s.ticking company = [] → s.TickerIsNext company →
      s'.spawned = s.spawned := by
  obtain ⟨-, next, ht, hticks⟩ := h.ticks
  have hrunning := ht.running
  refine ⟨fun hz => ?_, fun hp => ⟨fun time hpast hstop => ?_, ?_, hticks.count_le_one hp, ?_⟩,
    fun hrun => ?_, ?_, fun before time after => h.exists_turn,
    fun s' => spawned_of_tickerIsNext⟩
  · obtain ⟨rfl, hlog⟩ := hticks.eq_none_of_zero hz
    exact ⟨hrunning, hlog⟩
  · refine ⟨fun hmem => hticks.isDue hp hmem hstop, fun hdue => hticks.of_isDue hp hdue ?_⟩
    refine hpast.imp_right fun ⟨he, hs⟩ => ⟨he, fun hn => ?_⟩
    exact Nat.lt_irrefl _ (ht.rest hs hn).1
  · intro before time after hlog
    obtain ⟨first, k, hsince, hk, htime⟩ := hticks.exists_start hp hlog
    obtain ⟨earlier, later, hbefore, hearlier, hlater⟩ := Ticker.since_eq_some_iff.mp hsince
    exact ⟨earlier, first, later, k, hbefore, hearlier, hlater, hk, htime⟩
  · rw [hrunning]
    rcases hticks.phase hp with ⟨hs, rfl⟩ | ⟨first, c, hs, rfl, -⟩
    · rw [hs]
    · rw [hs]
      rfl
  · rw [startTicker, hrun, Bool.or_true, if_pos rfl]
  · rw [ht.length_tickers, hrunning]
    cases next <;> rfl

namespace Sample

/-- The next turn. -/
def onward (s : Stage) : Stage := (s.step? (Company.program {})).getD s

theorem clocked_onward {log : List Ticker.Entry} {s : Stage} (h : Clocked {} log s)
    (log' : List Ticker.Entry) (ht : s.ticking {} = log')
    (hs : (s.step? (Company.program {})).isSome = true) :
    Clocked {} (log ++ log') (onward s) := by
  obtain ⟨s', hs'⟩ := Option.isSome_iff_exists.mp hs
  rw [onward, hs', ← ht]
  exact h.turn hs'

theorem clocked_sleep {log : List Ticker.Entry} {s : Stage} (h : Clocked {} log s)
    (time due : Nat) (hs : (s.step? (Company.program {})).isNone = true)
    (hd : s.nextDue (Company.program {}) = some due) (hle : time ≤ due) :
    Clocked {} log (s.jump time) :=
  h.wait time (Option.isNone_iff_eq_none.mp hs) fun _ hdue =>
    Option.some.inj (hd.symm.trans hdue) ▸ hle

/-- The ticker is started, and ticks. -/
def ticked : Stage := onward (Schedule.jump (onward (ofBot Bot.Sample.bare).startTicker) 1000)

/-- It is started once more, and nobody can be told about the next tick. -/
def unheard : Stage :=
  onward (Schedule.jump (ticked.startTicker.modify fun b =>
    (b.edit (.host (.destroy CoreEvent.onTimerTick.name))).2) 2000)

/-- It is stopped between two ticks and started again, and ticks. -/
def restarted : Stage :=
  onward (Schedule.jump (onward (startTicker (stopTicker (Schedule.jump unheard 2300)))) 3300)

/-- What is written down in the meantime. -/
def account : List Ticker.Entry :=
  [⟨0, .start⟩, ⟨1000, .tick⟩, ⟨1000, .start⟩, ⟨2000, .tick⟩, ⟨2300, .stop⟩, ⟨2300, .start⟩,
    ⟨3300, .tick⟩]

theorem clocked_ticked : Clocked {} [⟨0, .start⟩, ⟨1000, .tick⟩] ticked := by
  have hb : Bot.ofConfig {} = .ok Bot.Sample.bare := rfl
  have hbegun : Clocked {} [] (ofBot Bot.Sample.bare) := .begin hb
  have hstarted := clocked_onward hbegun.start [] (by decide +kernel) (by decide +kernel)
  have hslept := clocked_sleep hstarted 1000 1000 (by decide +kernel) (by decide +kernel)
    (Nat.le_refl _)
  exact clocked_onward hslept [⟨1000, .tick⟩] (by decide +kernel) (by decide +kernel)

theorem clocked_unheard :
    Clocked {} [⟨0, .start⟩, ⟨1000, .tick⟩, ⟨1000, .start⟩, ⟨2000, .tick⟩] unheard := by
  have hnow : ticked.now = 1000 := by decide +kernel
  have hstarted := clocked_ticked.start
  rw [hnow] at hstarted
  have hedited := hstarted.befall (.edit (e := .host (.destroy CoreEvent.onTimerTick.name)) trivial)
  have hslept := clocked_sleep hedited 2000 2000 (by decide +kernel) (by decide +kernel)
    (Nat.le_refl _)
  exact clocked_onward hslept [⟨2000, .tick⟩] (by decide +kernel) (by decide +kernel)

theorem clocked_restarted : Clocked {} account restarted := by
  have hslept := clocked_sleep clocked_unheard 2300 3000 (by decide +kernel) (by decide +kernel)
    (by decide)
  have hrestarted := clocked_onward hslept.stop.start [] (by decide +kernel) (by decide +kernel)
  have hlate := clocked_sleep hrestarted 3300 3300 (by decide +kernel) (by decide +kernel)
    (Nat.le_refl _)
  have hlast := clocked_onward hlate [⟨3300, .tick⟩] (by decide +kernel) (by decide +kernel)
  have h₁ : (Schedule.jump unheard 2300).now = 2300 := by decide +kernel
  have h₂ : (stopTicker (Schedule.jump unheard 2300)).now = 2300 := by decide +kernel
  rw [h₁, h₂] at hlast
  exact hlast

end Sample

/-- A tick is due although it cannot be fired, and none is due where the ticker was stopped before
and started again. -/
theorem ticks_on_schedule_sample :
    Clocked {} Sample.account Sample.restarted ∧ Sample.restarted.bot.ticker.running = true ∧
      Ticker.IsDue 1000 Sample.account 2000 ∧ ¬ Ticker.IsDue 1000 Sample.account 3000 := by
  have hinterval : Sample.restarted.bot.config.tickInterval = 1000 := by decide +kernel
  have hnow : Sample.restarted.now = 3300 := by decide +kernel
  obtain ⟨hexact, -, -, hrunning⟩ :=
    (ticks_on_schedule Sample.clocked_restarted).2.1 (by rw [hinterval]; decide)
  rw [hinterval, hnow] at hexact
  have hticked := hexact 2000 (.inl (by decide)) (by decide)
  have hmissed := hexact 3000 (.inl (by decide)) (by decide)
  exact ⟨Sample.clocked_restarted, by rw [hrunning]; decide, hticked.mp (by decide),
    fun hdue => absurd (hmissed.mpr hdue) (by decide)⟩

end Stage

end ChatBot
