import ChatBot.Proofs.Bot.Between

/-!
# Which tasks are tracked

Tasks that are tracked have been started, and are tracked until they end.

* `Schedule.Enlists` is what a task does to the tasks that are tracked in its turn, and
  `Stage.enlists_poll` says so for every task of a bot.
* `Stage.Tallies` is what becomes of them between two turns, and `Stage.tallies_step?` what in the
  course of a turn.
-/

namespace ChatBot

namespace Schedule

variable {σ τ : Type} {s s' s'' : Schedule σ τ}

/-- Some of the tasks that were started are tracked as well, each of them once. -/
structure Enlists (s s' : Schedule σ τ) : Prop where
  spawned : s.spawned ≤ s'.spawned
  tracked : ∃ ids, s'.tracked = s.tracked ++ ids ∧ ids.Nodup ∧ ∀ id ∈ ids, s.IsNew s' id

/-- Only what tasks share is changed. -/
theorem Enlists.of_eq (h : s' = { s with state := s'.state }) : s.Enlists s' := by
  rw [h]
  exact ⟨Nat.le_refl _, [], (List.append_nil _).symm, .nil, by simp⟩

theorem Enlists.refl (s : Schedule σ τ) : s.Enlists s := .of_eq rfl

theorem Enlists.trans (h : s.Enlists s') (h' : s'.Enlists s'') : s.Enlists s'' where
  spawned := Nat.le_trans h.spawned h'.spawned
  tracked := by
    obtain ⟨ids, htracked, hn, hnew⟩ := h.tracked
    obtain ⟨ids', htracked', hn', hnew'⟩ := h'.tracked
    refine ⟨ids ++ ids', by rw [htracked', htracked, List.append_assoc], ?_, fun id hid => ?_⟩
    · refine hn.append hn' fun id hid hid' => ?_
      exact Nat.not_le_of_lt (hnew id hid).2 (hnew' id hid').1
    · rcases List.mem_append.mp hid with hid | hid
      · exact (hnew id hid).trans h'.spawned
      · exact (hnew' id hid).of_le h.spawned

theorem enlists_spawnAll (s : Schedule σ τ) (ts : List τ) : s.Enlists (s.spawnAll ts).2 := by
  rw [spawnAll_eq]
  exact ⟨Nat.le_add_right _ _, [], (List.append_nil _).symm, .nil, by simp⟩

/-- Tasks are tracked as soon as they are started. -/
theorem enlists_track (s : Schedule σ τ) (ts : List τ) :
    s.Enlists ((s.spawnAll ts).2.track (s.spawnAll ts).1) := by
  rw [spawnAll_eq]
  exact ⟨Nat.le_add_right _ _, _, rfl, List.nodup_range' 1, fun id => List.mem_range'_1.mp⟩

end Schedule

/-! ### Steps of tasks -/

namespace Stage

variable {s s' : Stage}

theorem enlists_fire {event : String} {payload : Payload} {ids : List Nat}
    (h : s.fire event payload = .ok (ids, s')) : s.Enlists s' ∧ s.Enlists (s'.track ids) := by
  obtain ⟨ts, hts⟩ := fire_eq h
  have hs := Schedule.enlists_spawnAll s ts
  have ht := Schedule.enlists_track s ts
  rw [hts] at hs ht
  exact ⟨hs, ht⟩

theorem enlists_fireTracked {event : CoreEvent} {payload : Payload}
    (h : s.fireTracked event payload = .ok s') : s.Enlists s' := by
  obtain ⟨ids, s₁, hf, rfl⟩ := fireTracked_eq h
  exact (enlists_fire hf).2

theorem enlists_tell (s : Stage) (event : CoreEvent) (payload : Payload) :
    s.Enlists (s.tell event payload).2 := by
  rw [tell]
  cases hf : s.fireTracked event payload with
  | error e => exact .refl s
  | ok s' => exact enlists_fireTracked hf

theorem enlists_receive (s : Stage) (m : Message) : s.Enlists (s.receive m).2 := by
  rw [receive]
  split
  · exact .refl s
  · split
    · exact .refl s
    · exact enlists_tell s _ _

theorem enlists_endSender (s : Stage) (number : Option Nat) (result : Except BotError Unit) :
    s.Enlists (s.endSender number result) := by
  cases number with
  | none => exact .refl s
  | some n => exact .of_eq rfl

theorem Announces.enlists {m : Message} {deed : Chronicle.Deed} (h : s.Announces m s' deed) :
    s.Enlists s' := by
  cases h with
  | heard hf => exact enlists_fireTracked hf
  | unheard hf => exact .refl s

theorem enlists_perform (script : Script) (s : Stage) : s.Enlists (perform script s).2 := by
  induction script generalizing s with
  | done => exact .refl s
  | wait span next ih =>
      rw [perform]
      split
      · exact ih s
      · exact .refl s
  | note label payload next ih => exact (Schedule.Enlists.of_eq rfl).trans (ih _)
  | fire event payload next ih =>
      rw [perform]
      cases hf : s.fire event payload with
      | error e => exact ih s
      | ok fired => exact (enlists_fire hf).1.trans (ih _)
  | mint origin next ih => exact (Schedule.Enlists.of_eq rfl).trans (ih _ s.mint.2)

theorem enlists_pollTicker (s : Stage) (next : Option Nat) : s.Enlists (s.pollTicker next).2 := by
  cases next with
  | none => exact .refl s
  | some next =>
      rw [pollTicker]
      split
      · dsimp only
        rw [tick]
        cases hf : s.fireTracked .onTimerTick (tickPayload s.now) with
        | error e => exact .refl s
        | ok s' => exact enlists_fireTracked hf
      · exact .refl s

theorem enlists_attend {a : Activity} (ha : a.IsBystander) (company : Company) (s : Stage) :
    s.Enlists (Stage.poll company a s).2 := by
  cases a with
  | launched handler payload =>
      cases handler with
      | inbox listener address =>
          rw [poll, launch]
          cases Payload.message? payload with
          | none => exact .refl s
          | some reply =>
              rw [Option.elim_some, receiveReply]
              split
              · exact .of_eq rfl
              · exact .refl s
      | guest name => exact enlists_perform _ s
      | command serial => exact ha.elim
  | script time script =>
      rw [poll]
      split
      · exact enlists_perform script s
      · exact .refl s
  | ticker next => exact enlists_pollTicker s next
  | job | sender => exact ha.elim

end Stage

theorem Phase.Proceeds.enlists {s : Stage} {session : Session} {phase : Phase} {m : Move}
    (h : phase.Proceeds s session m) : s.Enlists m.stage := by
  cases h with
  | subscribe ho =>
      obtain ⟨-, host, -, rfl⟩ := Stage.openInbox_ok ho
      exact .of_eq rfl
  | publish hf => exact Stage.enlists_fireTracked hf
  | close => exact .of_eq rfl
  | refuse | lose | receive | giveUp => exact .refl s

theorem SenderState.Proceeds.enlists {s : Stage} {number : Option Nat} {state : SenderState}
    {o : Stride} (h : state.Proceeds s number o) : s.Enlists o.stage := by
  cases h with
  | refuse => exact Stage.enlists_endSender s number _
  | stop =>
      exact (Schedule.Enlists.of_eq rfl).trans
        (Stage.enlists_endSender (s.withOutbox fun o => { o with receiver := .free }) number _)
  | announce hq hm ha => exact (Schedule.Enlists.of_eq rfl).trans ha.enlists
  | arrive ht ha => exact ha.enlists
  | take | discard | hand | lose => exact .of_eq rfl

theorem Errand.Proceeds.enlists {s : Stage} {e : Errand} {o : Stride} (h : e.Proceeds s o) :
    s.Enlists o.stage := by
  cases h with
  | evaluate hm => exact hm.enlists
  | @report recipient result => cases recipient <;> exact .of_eq rfl
  | send hs => exact hs.enlists
  | attend ha company => exact Stage.enlists_attend ha company s
  | launch | stray | run | begin | resume | conclude | fail => exact .of_eq rfl

theorem Errand.Leads.enlists {s s' : Stage} {e : Errand} {next : Option Errand}
    (h : Errand.Leads s e s' next) : s.Enlists s' := by
  induction h with
  | refl s e => exact .refl s
  | ends h hn => exact h.enlists
  | more h hn _ ih => exact h.enlists.trans ih

namespace Stage

variable {company : Company} {s s' : Stage} {id : Nat}

theorem enlists_poll (hf : s.bot.Filed) (company : Company) (a : Activity) :
    s.Enlists (Stage.poll company a s).2 := (Errand.leads_poll hf company a).enlists

theorem enlists_befalls (h : s.Befalls s') : s.Enlists s' := by
  cases h with
  | @spawn a ha => exact Schedule.enlists_spawnAll s [a]
  | fire hf => exact (enlists_fire hf).1
  | tell event payload => exact enlists_tell s event payload
  | post | signalStop | mint | edit => exact .of_eq rfl

/-! ### Between turns -/

/-- Those that have ended are tracked no longer, and some of those are that were started. -/
structure Tallies (s s' : Stage) : Prop where
  precedes : s.Precedes s'
  tracked : ∃ ids, s'.tracked = s.tracked.filter s'.isLive ++ ids ∧ ids.Nodup ∧
    ∀ id ∈ ids, s.IsNew s' id ∧ s'.isLive id = true

theorem Spawns.isLive_iff {ts : List Activity} (h : s.Spawns s' ts) :
    s'.isLive id = true ↔ s.isLive id = true ∨ s.IsNew s' id := by
  have hnew : id ∈ (numbered s.spawned ts).map (·.1) ↔ s.IsNew s' id := by
    rw [numbers_numbered, List.mem_range'_1, Schedule.IsNew, h.spawned]
  rw [Schedule.isLive_iff, Schedule.isLive_iff, h.ready, h.parked, List.map_append,
    List.map_append, List.mem_append, List.mem_append, hnew, List.map_append, List.mem_append,
    or_right_comm]

/-- Tasks were started, and none has ended. -/
theorem Tallies.of_spawns {ts : List Activity} (hl : ∀ id ∈ s.tracked, s.isLive id = true)
    (h : s.Spawns s' ts) (he : s.Enlists s') : s.Tallies s' := by
  obtain ⟨ids, htracked, hn, hnew⟩ := he.tracked
  refine ⟨⟨he.spawned, fun id hid => h.isLive_iff.mp hid, fun id hid => ?_⟩, ids, ?_, hn,
    fun id hid => ⟨hnew id hid, h.isLive_iff.mpr (.inr (hnew id hid))⟩⟩
  · rw [htracked] at hid
    exact (List.mem_append.mp hid).imp_right (hnew id)
  · rw [htracked, List.filter_eq_self.mpr fun id hid => h.isLive_iff.mpr (.inl (hl id hid))]

/-- The same tasks are there, and the same ones are tracked. -/
theorem Tallies.of_isLive_eq (hl : ∀ id ∈ s.tracked, s.isLive id = true)
    (hs : s'.spawned = s.spawned) (ht : s'.tracked = s.tracked)
    (h : ∀ id, s'.isLive id = s.isLive id) : s.Tallies s' := by
  refine ⟨⟨Nat.le_of_eq hs.symm, fun id hid => .inl (h id ▸ hid), fun id hid => .inl (ht ▸ hid)⟩,
    [], ?_, .nil, by simp⟩
  rw [ht, List.append_nil, List.filter_eq_self.mpr fun id hid => (h id).trans (hl id hid)]

/-- One task has ended. -/
theorem filter_isLive_of_ended {ids : List Nat} (hn : ids.Nodup)
    (h : ∀ id' ∈ ids, s'.isLive id' = true ↔ id' ≠ id) : ids.erase id = ids.filter s'.isLive := by
  rw [hn.erase_eq_filter]
  refine List.filter_congr fun id' hid => ?_
  rw [Bool.eq_iff_iff, h id' hid, bne_iff_ne]

theorem isLive_abort_iff {id' : Nat} :
    (s.abort id).isLive id' = true ↔ s.isLive id' = true ∧ id' ≠ id := by
  simp only [Schedule.isLive_iff, Schedule.abort, ← List.filter_append, List.mem_map,
    List.mem_filter, bne_iff_ne]
  constructor
  · rintro ⟨t, ⟨ht, hne⟩, rfl⟩
    exact ⟨⟨t, ht, rfl⟩, hne⟩
  · rintro ⟨⟨t, ht, rfl⟩, hne⟩
    exact ⟨t, ⟨ht, hne⟩, rfl⟩

theorem tallies_startTicker (hl : ∀ id ∈ s.tracked, s.isLive id = true) :
    s.Tallies s.startTicker := by
  rw [startTicker]
  split
  · exact .of_spawns hl (.refl s) (.refl s)
  · have hspawns : s.Spawns ((s.spawn (.ticker none)).2.modify fun b => { b with
        ticker := ⟨true, some s.spawned⟩ }) [.ticker none] := ⟨rfl, rfl, rfl⟩
    exact .of_spawns hl hspawns ⟨Nat.le_succ _, [], (List.append_nil _).symm, .nil, by simp⟩

theorem tallies_stopTicker (hn : s.tracked.Nodup) (hl : ∀ id ∈ s.tracked, s.isLive id = true) :
    s.Tallies s.stopTicker := by
  refine ⟨(atOnce_stopTicker s).toPrecedes, [], ?_, .nil, by simp⟩
  rw [List.append_nil, stopTicker]
  cases s.bot.ticker.task with
  | none => exact (List.filter_eq_self.mpr hl).symm
  | some id =>
      refine filter_isLive_of_ended hn fun id' hid => ?_
      rw [Option.elim_some, isLive_abort_iff]
      exact and_iff_right (hl id' hid)

theorem isLive_begin {t : Nat × Activity} {rest : List (Nat × Activity)}
    (hr : s.ready = t :: rest) :
    s.isLive id = true ↔ id = t.1 ∨ Schedule.isLive { s with ready := rest } id = true := by
  rw [Schedule.isLive_iff, Schedule.isLive_iff, hr, List.cons_append, List.map_cons, List.mem_cons]

theorem isLive_park (t : Nat × Activity) :
    Schedule.isLive { s with parked := s.parked ++ [t] } id = true ↔
      s.isLive id = true ∨ id = t.1 := by
  rw [Schedule.isLive_iff, Schedule.isLive_iff, ← List.append_assoc, List.map_append,
    List.mem_append, List.map_singleton, List.mem_singleton]

/-- A task has its turn. -/
theorem tallies_step? (ho : s.IsOrderly) (hn : s.tracked.Nodup)
    (hl : ∀ id ∈ s.tracked, s.isLive id = true)
    (hs : s.step? company.program = some s') : s.Tallies s' := by
  refine ⟨(Schedule.atOnce_step? (isForward_program company) hs).toPrecedes, ?_⟩
  obtain ⟨hbot, hspawned, -⟩ := wake_eq company.program s
  have htracked := Schedule.tracked_wake company.program s
  obtain ⟨id, a, rest, turned, s₁, hready, hpoll, rfl⟩ := Schedule.step?_eq_some hs
  change Stage.poll company a _ = _ at hpoll
  have hf : (Stage.bot { s.wake company.program with ready := rest }).Filed := hbot ▸ ho.filed
  obtain ⟨ls, hfires⟩ := fires_poll hf company a
  have henlists := enlists_poll hf company a
  rw [hpoll] at hfires henlists
  obtain ⟨ids, htracked', hn', hnew⟩ := henlists.tracked
  have hborn : ∀ id' ∈ ids, s.IsNew s₁ id' ∧ s₁.isLive id' = true := fun id' hid =>
    ⟨⟨hspawned ▸ (hnew id' hid).1, (hnew id' hid).2⟩,
      hfires.spawns.isLive_iff.mpr (.inr (hnew id' hid))⟩
  have hlive : ∀ id' ∈ s.tracked, id' = id ∨ s₁.isLive id' = true := by
    intro id' hid
    have hid := hl id' hid
    rw [← Schedule.isLive_wake company.program, isLive_begin hready] at hid
    exact hid.imp_right fun hid => hfires.spawns.isLive_iff.mpr (.inl hid)
  have htracked₁ : s₁.tracked = s.tracked ++ ids := htracked'.trans (htracked ▸ rfl)
  cases turned with
  | some a' =>
      refine ⟨ids, ?_, hn', fun id' hid =>
        ⟨(hborn id' hid).1, (isLive_park _).mpr (.inl (hborn id' hid).2)⟩⟩
      have hall : ∀ id' ∈ s.tracked,
          Schedule.isLive { s₁ with parked := s₁.parked ++ [(id, a')] } id' = true :=
        fun id' hid => (isLive_park _).mpr (hlive id' hid).symm
      rw [List.filter_eq_self.mpr hall]
      exact htracked₁
  | none =>
      -- the number of the task was given out before the turn, and to no other task
      have hperm := Schedule.perm_wake company.program s
      rw [hready] at hperm
      have hlt : id < s.spawned := ho.fresh (hperm.mem_iff.mp (List.mem_cons_self (a := (id, a))))
      have hended : s₁.isLive id = false := by
        rw [← Bool.not_eq_true, hfires.spawns.isLive_iff, Schedule.isLive_iff]
        have hnodup := (hperm.map (·.1)).nodup_iff.mpr ho.nodup
        rintro (hid | hid)
        · exact (List.nodup_cons.mp hnodup).1 hid
        · exact Nat.not_le_of_lt hlt (hspawned ▸ hid.1)
      refine ⟨ids, ?_, hn', hborn⟩
      change s₁.tracked.erase id = _
      have hnotin : id ∉ ids := fun hid => Nat.not_le_of_lt hlt (hborn id hid).1.1
      have hrest : s.tracked.erase id = s.tracked.filter s₁.isLive := by
        refine filter_isLive_of_ended hn fun id' hid => ⟨?_, (hlive id' hid).resolve_left⟩
        rintro hlive' rfl
        rw [hended] at hlive'
        cases hlive'
      change _ = s.tracked.filter s₁.isLive ++ ids
      rw [htracked₁, List.erase_append, ← hrest]
      split
      · rfl
      · rename_i hout
        rw [List.erase_of_not_mem hnotin, List.erase_of_not_mem hout]

end Stage

end ChatBot
