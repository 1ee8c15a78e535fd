import ChatBot.Proofs.Bot.Effects

/-!
# Tasks and their numbers

What holds of every run of a bot, whatever listens: the registry and the host stay in step, every
task has a number of its own, and the number of the ticker belongs to the ticker.

* `Chronicle.Orderly.cases`: a step is one of a task, or a message is accepted, or it is a shift,
  which has to do with no message.
* `Chronicle.Run.orderly`: every run is orderly.
-/

namespace ChatBot

namespace Stage

variable {s s' : Stage} {ts : List Activity}

/-- New tasks, with the numbers that they are given. -/
def newcomers (s : Stage) (ts : List Activity) : List (Nat × Errand) :=
  (numbered s.spawned ts).map fun t => (t.1, Errand.ofActivity t.2)

theorem numbers_newcomers (s : Stage) (ts : List Activity) :
    (s.newcomers ts).map (·.1) = List.range' s.spawned ts.length := by
  rw [newcomers, List.map_map, ← numbers_numbered]
  rfl

theorem mem_newcomers {t : Nat × Errand} (ht : t ∈ s.newcomers ts) :
    s.spawned ≤ t.1 ∧ t.1 < s.spawned + ts.length ∧ ∃ a ∈ ts, t.2 = .ofActivity a := by
  obtain ⟨u, hu, rfl⟩ := List.mem_map.mp ht
  obtain ⟨hl, hr, ha⟩ := le_of_mem_numbered hu
  exact ⟨hl, hr, _, ha, rfl⟩

/-- New tasks get numbers that nobody has. -/
theorem nodup_append_newcomers {l : List (Nat × Errand)} (hl : (l.map (·.1)).Nodup)
    (hf : ∀ t ∈ l, t.1 < s.spawned) (ts : List Activity) :
    ((l ++ s.newcomers ts).map (·.1)).Nodup := by
  rw [List.map_append, numbers_newcomers]
  refine hl.append (List.nodup_range' 1) fun id hid hnew => ?_
  obtain ⟨t, ht, rfl⟩ := List.mem_map.mp hid
  exact Nat.not_lt.mpr (List.mem_range'_1.mp hnew).1 (hf t ht)

theorem Spawns.scheduled (h : s.Spawns s' ts) :
    s'.scheduled.Perm (s.scheduled ++ s.newcomers ts) := by
  rw [Stage.scheduled, Stage.scheduled, newcomers, ← List.map_append]
  refine List.Perm.map _ ?_
  rw [h.ready, h.parked, List.append_assoc, List.append_assoc]
  exact List.perm_append_comm.append_left _

/-- A task that is aborted is no longer scheduled. -/
theorem scheduled_abort (s : Stage) (id : Nat) :
    Stage.scheduled (s.abort id) = s.scheduled.filter fun t => t.1 != id := by
  rw [scheduled, scheduled, List.filter_map, List.filter_append]
  rfl

end Stage

/-- The ticker, or what someone outside may drop. -/
def Errand.IsService (e : Errand) : Prop :=
  (∃ next, e = .activity (.ticker next)) ∨ ∃ a : Activity, a.IsAttended ∧ e = .ofActivity a

theorem Errand.not_isService_launched (handler : Handler) (payload : Payload) :
    ¬ (Errand.ofActivity (.launched handler payload)).IsService := by
  rintro (⟨next, h⟩ | ⟨a, ha, h⟩)
  · cases h
  · cases a with
    | sender => cases h
    | job recipient work => cases work <;> cases h
    | launched | script | ticker => exact ha

/-- The ticker goes on as the ticker. -/
theorem Errand.Proceeds.next_ticker {s : Stage} {next : Option Nat} {o : Stride}
    (h : (Errand.activity (.ticker next)).Proceeds s o) :
    ∀ e, o.next = some e → ∃ next', e = .activity (.ticker next') := by
  cases h with
  | attend ha company =>
      intro e he
      obtain ⟨a, ha', rfl⟩ := Option.map_eq_some_iff.mp he
      obtain ⟨next', -, rfl⟩ := Option.map_eq_some_iff.mp ha'
      exact ⟨next', rfl⟩

namespace Chronicle

variable {χ χ' : Chronicle}

/-- Registry and host are in step, and tasks and inboxes have numbers of their own. -/
structure Orderly (χ : Chronicle) : Prop where
  consistent : χ.stage.bot.Consistent
  filed : χ.stage.bot.Filed
  fresh : ∀ t ∈ χ.tasks, t.1 < χ.stage.spawned
  nodup : (χ.tasks.map (·.1)).Nodup
  ticking : ∀ id, χ.stage.bot.ticker.task = some id → id < χ.stage.spawned ∧ χ.cause id = none ∧
    ∀ e, (id, e) ∈ χ.tasks → ∃ next, e = .activity (.ticker next)
  doers : ∀ r ∈ χ.history, ∀ id, r.doer = some id → id < χ.stage.spawned

/-- Something happened outside of tasks: `ts` were started, put down to `cause`, and no task has
ended but of the bot's services. -/
structure Shifts (χ χ' : Chronicle) (cause : Option Nat) (ts : List Activity) : Prop where
  consistent : χ'.stage.bot.Consistent
  filed : χ'.stage.bot.Filed
  grows : χ.stage.bot.Grows χ'.stage.bot
  ticker : ∀ id, χ'.stage.bot.ticker.task = some id → χ.stage.bot.ticker.task = some id ∨
    id = χ.stage.spawned ∧ ts = [.ticker none] ∧ cause = none
  tasks : ∃ lost, (χ'.tasks ++ lost).Perm (χ.tasks ++ χ.stage.newcomers ts) ∧
    ∀ t ∈ lost, t.2.IsService
  idle : ∀ a ∈ ts, (Errand.ofActivity a).session? = none
  spawned : χ'.stage.spawned = χ.stage.spawned + ts.length
  cause : χ'.cause = χ.causes cause
  history : ∃ rs, χ'.history = χ.history ++ rs ∧
    ∀ r ∈ rs, r.doer = none ∧ ∃ m, r.deed = .posted m

/-- Where the causes of known tasks are looked up. -/
theorem causes_of_lt {id : Nat} (h : id < χ.stage.spawned) (cause : Option Nat) :
    χ.causes cause id = χ.cause id := if_pos h

theorem causes_of_le {id : Nat} (h : χ.stage.spawned ≤ id) (cause : Option Nat) :
    χ.causes cause id = cause := if_neg (Nat.not_lt.mpr h)

/-! ### Steps of tasks -/

/-- The tasks when the first of those that are running has gone on. -/
theorem tasks_advance {id : Nat} {e : Errand} {rest : List (Nat × Errand)} {o : Stride}
    {ts : List Activity} (hr : χ.running = (id, e) :: rest) (ho : χ.stage.Spawns o.stage ts) :
    χ.tasks.Perm ((id, e) :: (χ.stage.scheduled ++ rest)) ∧
    (χ.advance id rest o).tasks.Perm
      ((o.next.map (id, ·)).toList ++ (χ.stage.scheduled ++ rest) ++ χ.stage.newcomers ts) := by
  refine ⟨?_, ?_⟩
  · rw [tasks, hr]
    exact List.perm_middle
  · change (o.stage.scheduled ++ ((o.next.map (id, ·)).toList ++ rest)).Perm _
    calc o.stage.scheduled ++ ((o.next.map (id, ·)).toList ++ rest)
        |>.Perm ((χ.stage.scheduled ++ χ.stage.newcomers ts) ++
            ((o.next.map (id, ·)).toList ++ rest)) := ho.scheduled.append_right _
      _ |>.Perm (χ.stage.scheduled ++ ((o.next.map (id, ·)).toList ++ rest) ++
            χ.stage.newcomers ts) := by
          rw [List.append_assoc, List.append_assoc]
          exact List.perm_append_comm.append_left _
      _ |>.Perm ((o.next.map (id, ·)).toList ++ (χ.stage.scheduled ++ rest) ++
            χ.stage.newcomers ts) := by
          refine List.Perm.append_right _ ?_
          rw [← List.append_assoc, ← List.append_assoc]
          exact List.perm_append_comm.append_right _

theorem Orderly.advance (h : χ.Orderly) {id : Nat} {e : Errand} {rest : List (Nat × Errand)}
    {o : Stride} (hr : χ.running = (id, e) :: rest) (he : e.Proceeds χ.stage o) :
    (χ.advance id rest o).Orderly := by
  obtain ⟨ls, hf⟩ := he.fires
  obtain ⟨hp, hp'⟩ := tasks_advance hr hf.spawns
  have hspawned : o.stage.spawned = χ.stage.spawned + (ls.map Launch.activity).length :=
    hf.spawns.spawned
  have hid : id < χ.stage.spawned := h.fresh (id, e) (hp.mem_iff.mpr List.mem_cons_self)
  have hothers : ∀ t ∈ χ.stage.scheduled ++ rest, t ∈ χ.tasks := fun t ht =>
    hp.mem_iff.mpr (List.mem_cons_of_mem _ ht)
  -- the task itself, if it goes on, and the others
  have hold : ∀ t ∈ (o.next.map (id, ·)).toList ++ (χ.stage.scheduled ++ rest),
      (∃ e', o.next = some e' ∧ t = (id, e')) ∨ t ∈ χ.tasks := by
    intro t ht
    rcases List.mem_append.mp ht with ht | ht
    · obtain ⟨e', he', rfl⟩ := Option.map_eq_some_iff.mp (Option.mem_toList.mp ht)
      exact .inl ⟨e', he', rfl⟩
    · exact .inr (hothers t ht)
  have hlt : ∀ t ∈ (o.next.map (id, ·)).toList ++ (χ.stage.scheduled ++ rest),
      t.1 < χ.stage.spawned := by
    intro t ht
    rcases hold t ht with ⟨e', -, rfl⟩ | ht
    · exact hid
    · exact h.fresh t ht
  refine
    { consistent := hf.keeps.consistent h.consistent
      filed := hf.keeps.filed h.filed
      fresh := fun t ht => ?_
      nodup := ?_
      ticking := fun id' hid' => ?_
      doers := fun r hm id' hid' => ?_ }
  · change t.1 < o.stage.spawned
    rw [hspawned]
    rcases List.mem_append.mp (hp'.mem_iff.mp ht) with ht | ht
    · exact Nat.lt_of_lt_of_le (hlt t ht) (Nat.le_add_right _ _)
    · exact (Stage.mem_newcomers ht).2.1
  · refine (hp'.map _).nodup_iff.mpr (Stage.nodup_append_newcomers ?_ hlt _)
    have hn := (hp.map (·.1)).nodup_iff.mp h.nodup
    cases o.next with
    | none => exact (List.nodup_cons.mp hn).2
    | some e' => exact hn
  · obtain ⟨hl, hc, ht⟩ := h.ticking id' (hf.keeps.ticker ▸ hid')
    refine ⟨Nat.lt_of_lt_of_le hl (hspawned ▸ Nat.le_add_right _ _), ?_, fun e' he' => ?_⟩
    · exact (causes_of_lt hl _).trans hc
    · rcases List.mem_append.mp (hp'.mem_iff.mp he') with hm | hm
      · rcases hold _ hm with ⟨e'', hnext, heq⟩ | hm
        · cases heq
          obtain ⟨next, rfl⟩ := ht e (hp.mem_iff.mpr List.mem_cons_self)
          exact he.next_ticker e' hnext
        · exact ht e' hm
      · exact absurd hl (Nat.not_lt.mpr (Stage.mem_newcomers hm).1)
  · change id' < o.stage.spawned
    refine Nat.lt_of_lt_of_le ?_ (hspawned ▸ Nat.le_add_right _ _)
    rcases List.mem_append.mp hm with hm | hm
    · exact h.doers r hm id' hid'
    · obtain ⟨d, -, rfl⟩ := List.mem_map.mp hm
      cases hid'
      exact hid

/-! ### Shifts -/

theorem Orderly.of_shifts (h : χ.Orderly) {cause : Option Nat} {ts : List Activity}
    (hs : Shifts χ χ' cause ts) : χ'.Orderly := by
  obtain ⟨lost, hp, -⟩ := hs.tasks
  have hle : χ.stage.spawned ≤ χ'.stage.spawned := hs.spawned ▸ Nat.le_add_right _ _
  have hmem : ∀ t ∈ χ'.tasks, t ∈ χ.tasks ∨ t ∈ χ.stage.newcomers ts := fun t ht =>
    List.mem_append.mp (hp.mem_iff.mp (List.mem_append_left _ ht))
  refine
    { consistent := hs.consistent
      filed := hs.filed
      fresh := fun t ht => ?_
      nodup := ?_
      ticking := fun id hid => ?_
      doers := fun r hm id hid => ?_ }
  · rcases hmem t ht with ht | ht
    · exact Nat.lt_of_lt_of_le (h.fresh t ht) hle
    · rw [hs.spawned]
      exact (Stage.mem_newcomers ht).2.1
  · have hn := (hp.map (·.1)).nodup_iff.mpr (Stage.nodup_append_newcomers h.nodup h.fresh ts)
    rw [List.map_append] at hn
    exact hn.of_append_left
  · rcases hs.ticker id hid with hid | ⟨rfl, rfl, rfl⟩
    · obtain ⟨hl, hc, ht⟩ := h.ticking id hid
      refine ⟨Nat.lt_of_lt_of_le hl hle, ?_, fun e he => ?_⟩
      · rw [hs.cause, causes_of_lt hl, hc]
      · rcases hmem _ he with he | he
        · exact ht e he
        · exact absurd hl (Nat.not_lt.mpr (Stage.mem_newcomers he).1)
    · refine ⟨by simp [hs.spawned], by rw [hs.cause, causes_of_le (Nat.le_refl _)], fun e he => ?_⟩
      rcases hmem _ he with he | he
      · exact absurd (h.fresh _ he) (Nat.lt_irrefl _)
      · obtain ⟨-, -, a, ha, he⟩ := Stage.mem_newcomers he
        rw [List.mem_singleton] at ha
        subst ha
        exact ⟨none, he⟩
  · obtain ⟨rs, hh, hrs⟩ := hs.history
    rw [hh] at hm
    rcases List.mem_append.mp hm with hm | hm
    · exact Nat.lt_of_lt_of_le (h.doers r hm id hid) hle
    · rw [(hrs r hm).1] at hid
      cases hid

theorem Orderly.shifts_pass (h : χ.Orderly) {s : Stage} {ts : List Activity}
    (hs : χ.stage.Spawns s ts) (hk : χ.stage.bot.Keeps s.bot)
    (hi : ∀ a ∈ ts, (Errand.ofActivity a).session? = none) : Shifts χ (χ.pass s) none ts where
  consistent := hk.consistent h.consistent
  filed := hk.filed h.filed
  grows := hk.grows
  ticker id hid := .inl (hk.ticker ▸ hid)
  tasks := by
    refine ⟨[], ?_, by simp⟩
    rw [List.append_nil]
    change (s.scheduled ++ χ.running).Perm (χ.stage.scheduled ++ χ.running ++ _)
    rw [List.append_assoc]
    refine (hs.scheduled.append_right _).trans ?_
    rw [List.append_assoc]
    exact List.perm_append_comm.append_left _
  idle := hi
  spawned := hs.spawned
  cause := rfl
  history := ⟨[], (List.append_nil _).symm, by simp⟩

theorem idle_launches (ls : List (Launch Handler)) :
    ∀ a ∈ ls.map Launch.activity, (Errand.ofActivity a).session? = none := by
  simp only [List.forall_mem_map]
  exact fun l _ => rfl

theorem Orderly.shifts_startTicker (h : χ.Orderly) :
    ∃ ts, Shifts χ (χ.pass χ.stage.startTicker) none ts := by
  rw [Stage.startTicker]
  split
  · exact ⟨[], h.shifts_pass (.refl _) (.refl _) (by simp)⟩
  · have hs := h.shifts_pass (Stage.spawns_spawn χ.stage (.ticker none)) (.refl _)
      (by simp [Errand.ofActivity, Errand.session?])
    exact ⟨[.ticker none], { hs with
      consistent := h.consistent.of_grows ⟨fun _ _ hi => hi, Nat.le_refl _, rfl⟩ rfl
        h.consistent.numbered h.consistent.separated fun _ => rfl
      filed := h.filed.mono (Nat.le_refl _) rfl rfl
      grows := ⟨fun _ _ hi => hi, Nat.le_refl _, rfl⟩
      ticker := fun id hid => by
        cases hid
        exact .inr ⟨rfl, rfl, rfl⟩ }⟩

/-- When the ticker is stopped, no other task is. -/
theorem Orderly.tasks_stopTicker (h : χ.Orderly) :
    ∃ lost, ((χ.pass χ.stage.stopTicker).tasks ++ lost).Perm χ.tasks ∧
      ∀ t ∈ lost, ∃ next, t.2 = .activity (.ticker next) := by
  rw [Stage.stopTicker]
  change ∃ lost, ((Stage.scheduled (χ.stage.bot.ticker.task.elim _ _) ++ χ.running) ++ lost).Perm
    (χ.stage.scheduled ++ χ.running) ∧ _
  cases hid : χ.stage.bot.ticker.task with
  | none => exact ⟨[], List.append_nil _ ▸ .refl _, by simp⟩
  | some id =>
      refine ⟨χ.stage.scheduled.filter fun t => !(t.1 != id), ?_, fun t ht => ?_⟩
      · have hs := Stage.scheduled_abort (χ.stage.modify fun b => { b with ticker := {} }) id
        change (Stage.scheduled (Schedule.abort _ id) ++ χ.running ++ _).Perm _
        rw [hs, List.append_assoc]
        calc χ.stage.scheduled.filter (fun t => t.1 != id) ++
              (χ.running ++ χ.stage.scheduled.filter fun t => !(t.1 != id))
            |>.Perm (χ.stage.scheduled.filter (fun t => t.1 != id) ++
              χ.stage.scheduled.filter (fun t => !(t.1 != id)) ++ χ.running) := by
              rw [List.append_assoc]
              exact List.perm_append_comm.append_left _
          _ |>.Perm (χ.stage.scheduled ++ χ.running) :=
              (List.filter_append_perm _ _).append_right _
      · obtain ⟨ht, hne⟩ := List.mem_filter.mp ht
        have he : t.1 = id := by simpa using hne
        exact (h.ticking id hid).2.2 t.2 (he ▸ List.mem_append_left _ ht)

theorem bot_stopTicker (s : Stage) :
    s.stopTicker.bot = { s.bot with ticker := {} } ∧ s.stopTicker.spawned = s.spawned := by
  rw [Stage.stopTicker]
  change Stage.bot (s.bot.ticker.task.elim _ _) = _ ∧
    Schedule.spawned (s.bot.ticker.task.elim _ _) = _
  cases s.bot.ticker.task <;> exact ⟨rfl, rfl⟩

theorem Orderly.shifts_stopTicker (h : χ.Orderly) :
    Shifts χ (χ.pass χ.stage.stopTicker) none [] := by
  obtain ⟨hb, hs⟩ := bot_stopTicker χ.stage
  obtain ⟨lost, hp, hlost⟩ := h.tasks_stopTicker
  have hg : χ.stage.bot.Grows { χ.stage.bot with ticker := {} } :=
    ⟨fun _ _ hi => hi, Nat.le_refl _, rfl⟩
  refine
    { consistent := ?_
      filed := ?_
      grows := ?_
      ticker := fun id hid => ?_
      tasks := ⟨lost, hp.trans (List.append_nil _ ▸ .refl _), fun t ht => .inl (hlost t ht)⟩
      idle := by simp
      spawned := hs
      cause := rfl
      history := ⟨[], (List.append_nil _).symm, by simp⟩ }
  · change χ.stage.stopTicker.bot.Consistent
    rw [hb]
    exact h.consistent.of_grows hg rfl h.consistent.numbered h.consistent.separated fun _ => rfl
  · change χ.stage.stopTicker.bot.Filed
    rw [hb]
    exact h.filed.mono (Nat.le_refl _) rfl rfl
  · change χ.stage.bot.Grows χ.stage.stopTicker.bot
    rw [hb]
    exact hg
  · change χ.stage.stopTicker.bot.ticker.task = some id at hid
    rw [hb] at hid
    cases hid

/-- What it takes for a message to be accepted, and what it starts. -/
theorem receive_ok {m : Message} {s : Stage} (hr : χ.stage.receive m = (.ok true, s)) :
    m.isAcceptable = true ∧ ∃ ls,
      χ.stage.bot.launches CoreEvent.onMessage.name (Payload.ofMessage m.named) = .ok ls ∧
      χ.stage.Quiet s ls := by
  rw [Stage.receive] at hr
  cases hm : m.isAcceptable with
  | false => simp [hm] at hr
  | true =>
      rw [hm, if_neg (by simp), Stage.tell] at hr
      split at hr
      · simp at hr
      · cases hf : χ.stage.fireTracked .onMessage (Payload.ofMessage m.named) with
        | error e => simp [hf, Except.map] at hr
        | ok s' =>
            rw [hf] at hr
            cases hr
            exact ⟨rfl, Stage.quiet_fireTracked hf⟩

/-- **What a step is.**  A task goes on, or a message is accepted, which starts tasks on its behalf,
or something happens that has to do with no message. -/
theorem Orderly.cases (h : χ.Orderly) (hs : Step χ χ') :
    (∃ id e rest o, χ.running = (id, e) :: rest ∧ e.Proceeds χ.stage o ∧
      χ' = χ.advance id rest o) ∨
    (∃ m s ls, m.isAcceptable = true ∧
      (∀ a, m.address = .internal a → a.serial < χ.stage.bot.minted) ∧
      χ.stage.bot.launches CoreEvent.onMessage.name (Payload.ofMessage m.named) = .ok ls ∧
      χ' = χ.accept m s ∧
      Shifts χ χ' (some χ.accepted.length) (ls.map Launch.activity)) ∨
    ((∃ ts, Shifts χ χ' none ts) ∧ χ'.accepted = χ.accepted) := by
  have hc := h.consistent
  cases hs with
  | @reschedule s running hb hs hn ht =>
      refine .inr (.inr ⟨⟨[],
        { consistent := hb ▸ hc
          filed := hb ▸ h.filed
          grows := hb ▸ .refl _
          ticker := fun id hid => .inl (hb ▸ hid)
          tasks := ⟨[], ?_, by simp⟩
          idle := by simp
          spawned := hs
          cause := rfl
          history := ⟨[], (List.append_nil _).symm, by simp⟩ }⟩, rfl⟩)
      rw [List.append_nil]
      exact ht.trans (List.append_nil _ ▸ .refl _)
  | proceed hr he => exact .inl ⟨_, _, _, _, hr, he, rfl⟩
  | @drop id a rest ha hr =>
      have hf := Stage.fires_drop χ.stage ha
      refine .inr (.inr ⟨⟨[], { h.shifts_pass hf.spawns hf.keeps (by simp) with
        tasks := ⟨[(id, .ofActivity a)], ?_, ?_⟩ }⟩, rfl⟩)
      · have hp : (χ.stage.drop a).scheduled.Perm (χ.stage.scheduled ++ []) := hf.spawns.scheduled
        rw [List.append_nil] at hp
        change ((χ.stage.drop a).scheduled ++ rest ++ _).Perm (χ.stage.scheduled ++ χ.running ++ [])
        rw [List.append_nil, hr, List.append_assoc]
        exact hp.append List.perm_append_comm
      · intro t ht
        rw [List.mem_singleton.mp ht]
        exact .inr ⟨a, ha, rfl⟩
  | @receive m s hr hm =>
      obtain ⟨hacc, ls, hl, hq⟩ := receive_ok hr
      have hp := h.shifts_pass hq.spawns hq.keeps (idle_launches ls)
      exact .inr (.inl ⟨m, s, ls, hacc, hm, hl, rfl,
        { hp with cause := rfl, ticker := fun id hid => .inl (hq.keeps.ticker ▸ hid) }⟩)
  | post m =>
      have hf := Stage.fires_post χ.stage m
      exact .inr (.inr ⟨⟨[], { h.shifts_pass hf.spawns hf.keeps (by simp) with
        history := ⟨[⟨none, .posted m⟩], rfl, by simp⟩ }⟩, rfl⟩)
  | @spawn a ha =>
      refine .inr (.inr ⟨⟨[a], h.shifts_pass (Stage.spawns_spawn _ a) (.refl _) ?_⟩, rfl⟩)
      intro a' ha'
      rw [List.mem_singleton.mp ha']
      cases a with
      | job recipient work =>
          cases work with
          | talking | asking => cases recipient <;> exact ha.elim
          | _ => rfl
      | _ => rfl
  | stop =>
      have hf := Stage.fires_withOutbox χ.stage fun o => { o with stops := o.stops + 1 }
      exact .inr (.inr ⟨⟨[], h.shifts_pass hf.spawns hf.keeps (by simp)⟩, rfl⟩)
  | fire hf =>
      obtain ⟨ls, -, hq⟩ := Stage.quiet_fire hf
      exact .inr (.inr ⟨⟨_, h.shifts_pass hq.spawns hq.keeps (idle_launches ls)⟩, rfl⟩)
  | startTicker => exact .inr (.inr ⟨h.shifts_startTicker, rfl⟩)
  | stopTicker => exact .inr (.inr ⟨⟨[], h.shifts_stopTicker⟩, rfl⟩)
  | @edit e he =>
      have hcarried := hc.carried he
      obtain ⟨hticker, -, -, hinboxes, hreplies⟩ := Bot.edit_spares χ.stage.bot e
      refine .inr (.inr ⟨⟨[], { h.shifts_pass (.refl χ.stage) (.refl _) (by simp) with
        consistent := hcarried.consistent
        filed := h.filed.mono hcarried.grows.minted hinboxes hreplies
        grows := hcarried.grows
        ticker := fun id hid => .inl ?_ }⟩, rfl⟩)
      exact hticker ▸ hid
  | mint =>
      have hq := Stage.quiet_mint χ.stage
      exact .inr (.inr ⟨⟨[], h.shifts_pass hq.spawns hq.keeps (by simp)⟩, rfl⟩)

theorem Orderly.step (h : χ.Orderly) (hs : Step χ χ') : χ'.Orderly := by
  rcases h.cases hs with ⟨id, e, rest, o, hr, he, rfl⟩ | ⟨m, s, ls, -, -, -, -, hs⟩ | ⟨⟨ts, hs⟩, -⟩
  · exact h.advance hr he
  · exact h.of_shifts hs
  · exact h.of_shifts hs

theorem orderly_start {config : Config} {b : Bot} (hb : Bot.ofConfig config = .ok b) :
    (start b).Orderly where
  consistent := (Bot.consistent_ofConfig hb).1
  filed := by
    obtain ⟨host, rfl, -⟩ := Bot.ofConfig_ok hb
    exact ⟨fun _ hl => (nomatch hl), fun _ hp => (nomatch hp)⟩
  fresh := by simp [start, tasks, Stage.scheduled, Stage.ofBot]
  nodup := by simp [start, tasks, Stage.scheduled, Stage.ofBot]
  ticking id hid := by
    obtain ⟨host, rfl, -⟩ := Bot.ofConfig_ok hb
    cases hid
  doers := by simp [start]

theorem Run.orderly {P : Chronicle → Prop} (h : Run P χ) : χ.Orderly := by
  induction h with
  | start hb => exact orderly_start hb
  | step _ hs _ ih => exact ih.step hs

end Chronicle

end ChatBot
