import ChatBot.Proofs.Evaluation.Traffic

/-!
# Ensembles attend to their inboxes

The traffic of an ensemble is right about it because the host is in order: for every round trip
there is one callback that serves its inbox, and no other callback of an inbox is about, on the host
or in a fire under way.

* `Ensemble.Attended` says so, and `Ensemble.Attended.step` that every step keeps it.
* `Ensemble.Step.traffic`: in such an ensemble every step is one of the nine of `Traffic.Step`.
-/

namespace ChatBot

namespace Ensemble

/-- The inboxes that the host serves are those of the round trips, and whatever is under way to an
inbox comes from a callback that serves it. -/
structure Attended (σ : Ensemble) : Prop where
  serves : σ.stage.bot.host.Serves σ.traffic.roundTrip?
  dispatched : ∀ d ∈ σ.dispatches, ∀ c ∈ d.rest, ∀ listener a,
    c.inbox? = some (listener, a) → c = inboxCallback listener a
  spawned : ∀ t ∈ σ.stage.inboxTasks, t.id < σ.stage.spawned
  addressed : ∀ a e, σ.evaluations a = some e →
    e.session.address = a ∧ a.serial < σ.stage.bot.minted

theorem attended_start : start.Attended where
  serves :=
    { separated := Host.separated_empty
      elsewhere := fun _ _ _ hc => (by cases hc)
      listed := fun _ => rfl }
  dispatched := fun _ hd => (by cases hd)
  spawned := fun _ ht => (by cases ht)
  addressed := fun _ _ he => (by cases he)

namespace Attended

variable {σ : Ensemble}

/-- Where a new evaluation gets its address, there is no other. -/
theorem evaluations_minted (h : σ.Attended) (origin : String) :
    σ.evaluations ⟨origin, σ.stage.bot.minted⟩ = none := by
  cases he : σ.evaluations ⟨origin, σ.stage.bot.minted⟩ with
  | none => rfl
  | some e => exact absurd (h.addressed _ e he).2 (Nat.lt_irrefl _)

theorem enroll (h : σ.Attended) (origin : Message) (deadline : Nat) (language : Language)
    (text : String) : (σ.enroll origin deadline language text).Attended where
  serves := by
    have hr : (σ.enroll origin deadline language text).traffic.roundTrip? =
        σ.traffic.roundTrip? := by
      funext b
      by_cases hb : b = ⟨evaluationOrigin, σ.stage.bot.minted⟩
      · subst hb
        have hn := h.evaluations_minted evaluationOrigin
        simp [Traffic.roundTrip?, traffic, Ensemble.enroll, Stage.openSession, Stage.mint, hn,
          Phase.listener?]
      · simp [Traffic.roundTrip?, traffic, Ensemble.enroll, Stage.openSession, Stage.mint, hb]
    rw [hr]
    exact h.serves
  dispatched := h.dispatched
  spawned := h.spawned
  addressed := Evaluation.forall_update ⟨rfl, Nat.lt_succ_self _⟩ fun b e he _ =>
    ⟨(h.addressed b e he).1, Nat.lt_succ_of_lt (h.addressed b e he).2⟩

/-- An evaluation moves, and the host serves its new phase. -/
theorem move (h : σ.Attended) {a : CorrelationId} {e : Evaluation} {m : Move}
    (he : σ.evaluations a = some e)
    (hs : m.stage.bot.host.Serves (Function.update σ.traffic.roundTrip? a m.phase.listener?))
    (hm : σ.stage.bot.minted ≤ m.stage.bot.minted) (hn : σ.stage.spawned ≤ m.stage.spawned)
    (ht : m.stage.inboxTasks.Sublist σ.stage.inboxTasks) : (σ.move a e m).Attended where
  serves := by
    rw [show (σ.move a e m).traffic.roundTrip? =
      Function.update σ.traffic.roundTrip? a m.phase.listener? from
        σ.traffic.roundTrip?_turn a e m.phase]
    exact hs
  dispatched := h.dispatched
  spawned t hm := Nat.lt_of_lt_of_le (h.spawned t (ht.mem hm)) hn
  addressed := by
    have old (b : CorrelationId) (e' : Evaluation) (he' : σ.evaluations b = some e') :
        e'.session.address = b ∧ b.serial < m.stage.bot.minted :=
      ⟨(h.addressed b e' he').1, Nat.lt_of_lt_of_le (h.addressed b e' he').2 hm⟩
    exact Evaluation.forall_update (old a e he) fun b e' he' _ => old b e' he'

/-- An evaluation moves within a round trip, or outside of any. -/
theorem move_of_passes (h : σ.Attended) {a : CorrelationId} {e : Evaluation} {m : Move}
    (he : σ.evaluations a = some e) (hl : m.phase.listener? = e.phase.listener?)
    (hp : σ.stage.Passes m.stage) : (σ.move a e m).Attended := by
  refine h.move he ?_ hp.minted hp.spawned hp.tasks
  have hr : σ.traffic.roundTrip? a = e.phase.listener? := Traffic.roundTrip?_of_phase he
  rw [hl, ← hr, Function.update_eq_self, hp.host]
  exact h.serves

/-- No inbox listens to the commands that are published. -/
theorem publish (h : σ.Attended) {payload : Payload} {s : Stage}
    (hf : σ.stage.fireTracked .onMessage payload = .ok s) :
    s.bot = σ.stage.bot ∧ s.now = σ.stage.now ∧ σ.stage.spawned ≤ s.spawned ∧
      s.inboxTasks = σ.stage.inboxTasks := by
  refine Stage.fireTracked_ok (fun c hc => ?_) hf
  exact h.serves.elsewhere _ (by decide) c (List.mem_append_left _ hc)

theorem proceed (h : σ.Attended) {a : CorrelationId} {e : Evaluation} {m : Move}
    (he : σ.evaluations a = some e) (hm : e.phase.Proceeds σ.stage e.session m) :
    (σ.move a e m).Attended := by
  have hr : σ.traffic.roundTrip? a = e.phase.listener? := Traffic.roundTrip?_of_phase he
  obtain ⟨session, language, text, phase⟩ := e
  obtain rfl : session.address = a := (h.addressed _ _ he).1
  dsimp only at hm hr
  cases hm with
  | refuse ho => exact h.move_of_passes he rfl (.refl _)
  | subscribe ho =>
      obtain ⟨rfl, host, hh, rfl⟩ := Stage.openInbox_ok ho
      exact h.move he (h.serves.subscribe hh hr) (Nat.le_succ _) (Nat.le_refl _) (.refl _)
  | lose hf => exact h.move_of_passes he rfl (.refl _)
  | publish hf =>
      obtain ⟨hb, hn, hs, ht⟩ := h.publish hf
      exact h.move_of_passes he rfl
        { host := congrArg Bot.host hb
          inboxes := congrArg Bot.inboxes hb
          replies := congrArg Bot.replies hb
          minted := Nat.le_of_eq (congrArg Bot.minted hb).symm
          spawned := hs
          now := Nat.le_of_eq hn.symm
          tasks := ht ▸ .refl _ }
  | receive hr' => exact h.move_of_passes he rfl (.refl _)
  | giveUp hr' hd => exact h.move_of_passes he rfl (.refl _)
  | @close listener next =>
      refine h.move he ?_ (Nat.le_refl _) (Nat.le_refl _) (.refl _)
      have hn : (next.elim Phase.gone Phase.talking).listener? = none := by cases next <;> rfl
      rw [hn]
      exact h.serves.unsubscribe hr

theorem drop (h : σ.Attended) {a : CorrelationId} {e : Evaluation} {p : Phase}
    (he : σ.evaluations a = some e) (hp : e.phase.Drops p) :
    (σ.move a e ⟨σ.stage, p, []⟩).Attended := by
  obtain ⟨session, language, text, phase⟩ := e
  dsimp only at hp
  cases hp with
  | talking d => exact h.move_of_passes he rfl (.refl _)
  | waiting listener command resume => exact h.move_of_passes he rfl (.refl _)

/-- The callbacks of a fire that others make are those that serve. -/
theorem launch (h : σ.Attended) {event : String} {payload : Payload}
    {callbacks : List (Callback Handler)} (answered : Option Nat)
    (hl : σ.stage.bot.host.listeners event payload = .ok callbacks) :
    (σ.launch event payload answered callbacks).Attended where
  serves := h.serves
  dispatched d hd c hc listener a hi := by
    obtain ⟨-, -, -, rfl⟩ := Host.listeners_ok hl
    rcases List.mem_cons.mp hd with rfl | hd
    · exact h.serves.eq_inboxCallback (List.mem_append_left _ hc) hi
    · exact h.dispatched d hd c hc listener a hi
  spawned := h.spawned
  addressed := h.addressed

end Attended

variable {σ σ' : Ensemble}

theorem mem_dispatches_of_consider {before after : List Dispatch} {d : Dispatch}
    {c : Callback Handler} {cs : List (Callback Handler)} (hc : d.rest = c :: cs) {d' : Dispatch}
    (hd : d' ∈ before ++ { d with rest := cs } :: after) :
    ∃ d'' ∈ before ++ d :: after, ∀ c ∈ d'.rest, c ∈ d''.rest := by
  rcases List.mem_append.mp hd with hd | hd
  · exact ⟨d', List.mem_append_left _ hd, fun _ hm => hm⟩
  · rcases List.mem_cons.mp hd with rfl | hd
    · exact ⟨d, List.mem_append_right _ List.mem_cons_self,
        fun _ hm => hc ▸ List.mem_cons_of_mem _ hm⟩
    · exact ⟨d', List.mem_append_right _ (List.mem_cons_of_mem _ hd), fun _ hm => hm⟩

/-- The tasks that are left when a listener of an inbox is polled. -/
theorem inboxTasks_of_ready {s : Stage} {before after : List (Nat × Activity)}
    {task : Nat × Activity} {t : InboxTask} (hr : s.ready = before ++ task :: after)
    (ht : inboxTask? task = some t) :
    s.inboxTasks = before.filterMap inboxTask? ++ t :: after.filterMap inboxTask? := by
  rw [Stage.inboxTasks, hr, List.filterMap_append, List.filterMap_cons_some ht]

/-- A message is put into an inbox that is open and empty, or nothing comes of it. -/
theorem deliver_cases (σ : Ensemble) (t : InboxTask) (ready : List (Nat × Activity)) :
    σ.deliver t ready = { σ with stage := { σ.stage with ready := ready } } ∨
    ∃ reply, Payload.message? t.payload = some reply ∧ t.listener ∈ σ.stage.bot.inboxes ∧
      σ.stage.reply? t.listener = none ∧
      σ.deliver t ready = { σ with
        stage := Schedule.modify { σ.stage with ready := ready } fun b =>
          { b with replies := (t.listener, reply) :: b.replies }
        history := .taken (σ.source t.id) t.listener reply :: σ.history } := by
  rw [deliver, takings]
  cases hm : Payload.message? t.payload with
  | none => exact .inl rfl
  | some reply =>
      by_cases hc : t.listener ∈ σ.stage.bot.inboxes ∧ σ.stage.reply? t.listener = none
      · refine .inr ⟨reply, rfl, hc.1, hc.2, ?_⟩
        have hr : Stage.receiveReply { σ.stage with ready := ready } t.listener reply =
            Schedule.modify { σ.stage with ready := ready } fun b =>
              { b with replies := (t.listener, reply) :: b.replies } := if_pos hc
        simp only [Option.elim_some, hr, if_pos hc, List.singleton_append]
      · have hr : Stage.receiveReply { σ.stage with ready := ready } t.listener reply =
            { σ.stage with ready := ready } := if_neg hc
        exact .inl (by simp only [Option.elim_some, hr, if_neg hc, List.nil_append])

/-- The turn of a callback leaves the host alone, and may only start a task for its inbox. -/
theorem Attended.consider (h : σ.Attended) {before after : List Dispatch} {d : Dispatch}
    {c : Callback Handler} {cs : List (Callback Handler)}
    (hd : σ.dispatches = before ++ d :: after) (hc : d.rest = c :: cs) :
    Attended { σ with
      stage := σ.stage.consider d.payload c
      dispatches := before ++ { d with rest := cs } :: after
      source := Function.update σ.source σ.stage.spawned d.fire } := by
  have hb : (σ.stage.consider d.payload c).bot = σ.stage.bot := Stage.consider_state _ _
  have hm : d ∈ σ.dispatches := hd ▸ List.mem_append_right _ List.mem_cons_self
  obtain ⟨started, ht, hlt, -⟩ := σ.stage.exists_inboxTasks_consider d.payload
    (h.dispatched d hm c (hc ▸ List.mem_cons_self))
  refine ⟨?_, fun d' hd' c' hc' listener a hi => ?_, fun t htm => ?_, fun a e he => ?_⟩
  · dsimp only
    rw [hb]
    exact h.serves
  · obtain ⟨d'', hd'', hsub⟩ := mem_dispatches_of_consider hc hd'
    exact h.dispatched d'' (hd ▸ hd'') c' (hsub c' hc') listener a hi
  · dsimp only at htm
    rw [ht] at htm
    rcases List.mem_append.mp htm with htm | htm
    · exact Nat.lt_of_lt_of_le (h.spawned t htm) (Schedule.le_spawned_spawnAll _ _)
    · exact hlt t htm
  · dsimp only
    rw [hb]
    exact h.addressed a e he

/-- The polling of a task takes it away, and leaves the host alone. -/
theorem Attended.deliver (h : σ.Attended) {before after : List (Nat × Activity)}
    {task : Nat × Activity} {t : InboxTask} (hr : σ.stage.ready = before ++ task :: after)
    (ht : inboxTask? task = some t) : (σ.deliver t (before ++ after)).Attended := by
  have hsub : (before.filterMap inboxTask? ++ after.filterMap inboxTask?).Sublist
      σ.stage.inboxTasks := by
    rw [inboxTasks_of_ready hr ht]
    exact (List.sublist_cons_self _ _).append_left _
  rw [← List.filterMap_append] at hsub
  rcases σ.deliver_cases t (before ++ after) with he | ⟨reply, -, -, -, he⟩
  · rw [he]
    exact ⟨h.serves, h.dispatched, fun t ht => h.spawned t (hsub.mem ht), h.addressed⟩
  · rw [he]
    exact ⟨h.serves, h.dispatched, fun t ht => h.spawned t (hsub.mem ht), h.addressed⟩

/-- Every step keeps the host in order. -/
theorem Attended.step (h : σ.Attended) (hs : Step σ σ') : σ'.Attended := by
  cases hs with
  | enroll origin deadline language text => exact h.enroll origin deadline language text
  | proceed he hm => exact h.proceed he hm
  | drop he hp => exact h.drop he hp
  | edit hc =>
      exact { serves := h.serves.edit hc, dispatched := h.dispatched, spawned := h.spawned,
              addressed := h.addressed }
  | fire answered hl => exact h.launch answered hl
  | consider hd hc => exact h.consider hd hc
  | deliver hr ht => exact h.deliver hr ht
  | other hp =>
      refine ⟨?_, h.dispatched, fun t htm => ?_, fun a e he => ?_⟩
      · dsimp only
        rw [hp.host]
        exact h.serves
      · exact Nat.lt_of_lt_of_le (h.spawned t (hp.tasks.mem htm)) hp.spawned
      · exact ⟨(h.addressed a e he).1, Nat.lt_of_lt_of_le (h.addressed a e he).2 hp.minted⟩

/-- What a fire sends on its way to inboxes. -/
theorem Attended.deliveries_launch (h : σ.Attended) {event : String} {payload : Payload}
    {callbacks : List (Callback Handler)}
    (hl : σ.stage.bot.host.listeners event payload = .ok callbacks) :
    Dispatch.deliveries ⟨σ.fires, payload, callbacks⟩ =
      (σ.traffic.delivery? event payload).toList := by
  obtain ⟨s, hs, -, rfl⟩ := Host.listeners_ok hl
  -- the event exists, so that its list is the active one
  have ha : σ.stage.bot.host.active event = (σ.stage.bot.host.register event).callbacks := by
    have hc : σ.stage.bot.host.contains event = true := by
      rw [Host.contains_eq_isSome, hs]
      rfl
    simp [Host.register, h.serves.separated.parked_eq_nil hc]
  rw [Dispatch.deliveries, Traffic.delivery?, ha]
  cases hm : Payload.message? payload with
  | none => simp
  | some reply =>
      simp only [Option.elim_some]
      by_cases he : event = CoreEvent.onMessageSent.name
      · subst he
        rw [if_pos rfl]
        cases hr : reply.address with
        | internal a =>
            rw [Callback.filterMap_delivery? hr, h.serves.listed a]
            dsimp only
            cases σ.traffic.roundTrip? a with
            | none => rfl
            | some listener => simp [Callback.delivery?, hr, traffic]
        | unset | external channel => simp [Callback.delivery?, hr]
      · rw [if_neg he, Option.toList_none, List.filterMap_eq_nil_iff]
        intro c hc
        rw [Callback.delivery?, h.serves.elsewhere event he c hc]
        rfl

/-- What the turn of a callback changes about what is under way: nothing but its order. -/
theorem Attended.underway_consider (h : σ.Attended) {before after : List Dispatch} {d : Dispatch}
    {c : Callback Handler} {cs : List (Callback Handler)}
    (hd : σ.dispatches = before ++ d :: after) (hc : d.rest = c :: cs) :
    (underway { σ with
      stage := σ.stage.consider d.payload c
      dispatches := before ++ { d with rest := cs } :: after
      source := Function.update σ.source σ.stage.spawned d.fire }).Perm σ.underway := by
  have hm : d ∈ σ.dispatches := hd ▸ List.mem_append_right _ List.mem_cons_self
  obtain ⟨started, ht, -, hst⟩ := σ.stage.exists_inboxTasks_consider d.payload
    (h.dispatched d hm c (hc ▸ List.mem_cons_self))
  -- the number of the new task is fresh, so the old ones keep their fires
  have hold : arriving (Function.update σ.source σ.stage.spawned d.fire) σ.stage.inboxTasks =
      arriving σ.source σ.stage.inboxTasks := by
    refine List.filterMap_congr fun t ht => ?_
    rw [delivery?, delivery?, Function.update_of_ne (Nat.ne_of_lt (h.spawned t ht))]
  have hdel : d.deliveries =
      arriving (Function.update σ.source σ.stage.spawned d.fire) started ++
        Dispatch.deliveries { d with rest := cs } := by
    rw [hst, Dispatch.deliveries, Dispatch.deliveries, hc]
    cases Payload.message? d.payload with
    | none => rfl
    | some reply => cases hr : c.delivery? d.fire reply <;> simp [hr]
  rw [underway, underway, ht, hd, arriving_append, hold, List.flatMap_append, List.flatMap_append,
    List.flatMap_cons, List.flatMap_cons, hdel, List.perm_iff_count]
  intro x
  simp only [List.count_append]
  omega

/-- What is under way where a listener of an inbox is to be polled. -/
theorem underway_of_ready {before after : List (Nat × Activity)} {task : Nat × Activity}
    {t : InboxTask} (hr : σ.stage.ready = before ++ task :: after)
    (ht : inboxTask? task = some t) :
    σ.underway.Perm ((delivery? σ.source t).toList ++
      underway { σ with stage := { σ.stage with ready := before ++ after } }) := by
  have hs : Stage.inboxTasks { σ.stage with ready := before ++ after } =
      before.filterMap inboxTask? ++ after.filterMap inboxTask? := List.filterMap_append
  rw [underway, underway, inboxTasks_of_ready hr ht, hs, arriving_append, arriving_append,
    arriving_cons, List.perm_iff_count]
  intro x
  simp only [List.count_append]
  omega

theorem traffic_move {a : CorrelationId} {e : Evaluation} {m : Move}
    (hb : m.stage.bot = σ.stage.bot) (ht : m.stage.inboxTasks = σ.stage.inboxTasks) :
    (σ.move a e m).traffic =
      { σ.traffic.turn a e m.phase with history := m.occurrences ++ σ.history } := by
  simp only [traffic, underway, move, hb, ht, Traffic.turn]

/-- Every step of an ensemble is one of its traffic. -/
theorem Step.traffic (h : σ.Attended) (hs : Step σ σ') : Traffic.Step σ.traffic σ'.traffic := by
  cases hs with
  | enroll origin deadline language text =>
      exact .enroll (e := ⟨_, language, text, .talking (language.evaluate text)⟩) rfl rfl
  | @proceed a e m he hm =>
      obtain ⟨session, language, text, phase⟩ := e
      obtain rfl : session.address = a := (h.addressed _ _ he).1
      dsimp only at hm
      cases hm with
      | refuse ho => exact .fail he rfl trivial
      | subscribe ho =>
          obtain ⟨rfl, host, -, rfl⟩ := Stage.openInbox_ok ho
          exact .subscribe he rfl
      | lose hf => exact .fail he rfl trivial
      | @publish listener command resume s hf =>
          obtain ⟨hb, -, -, ht⟩ := h.publish hf
          rw [traffic_move hb ht]
          exact .publish he rfl
      | receive hr => exact .receive he rfl hr
      | giveUp hr hd => exact .fail he rfl trivial
      | close => exact .close he rfl
  | @drop a e p he hp =>
      obtain ⟨session, language, text, phase⟩ := e
      dsimp only at hp
      cases hp with
      | talking d => exact .fail he rfl trivial
      | waiting listener command resume => exact .fail he rfl trivial
  | edit hc => exact .quiet (Nat.le_refl _) (.refl _)
  | @fire event payload callbacks answered hl =>
      have hu : (σ.launch event payload answered callbacks).underway.Perm
          ((σ.traffic.delivery? event payload).toList ++ σ.underway) := by
        rw [← h.deliveries_launch hl]
        exact List.perm_append_comm_assoc _ _ _
      exact .fire hu
  | @consider before after d c cs hd hc =>
      have hb : (σ.stage.consider d.payload c).bot = σ.stage.bot := Stage.consider_state _ _
      have hu := (h.underway_consider hd hc).subperm
      have hq := Traffic.Step.quiet (Nat.le_refl σ.traffic.minted) hu
      simpa only [traffic, hb] using hq
  | @deliver before after task t hr ht =>
      have hu := underway_of_ready hr ht
      rcases σ.deliver_cases t (before ++ after) with he | ⟨reply, hm, hi, hn, he⟩
      · rw [he]
        exact .quiet (Nat.le_refl _)
          ((List.sublist_append_right _ _).subperm.trans hu.symm.subperm)
      · rw [he]
        have hd : delivery? σ.source t = some ⟨σ.source t.id, t.listener, t.address, reply⟩ := by
          rw [delivery?, hm]
          rfl
        rw [hd] at hu
        exact .take (t := σ.traffic) hu hi hn
  | @other s hp =>
      have hu : (underway { σ with stage := s }).Subperm σ.underway :=
        ((hp.tasks.filterMap _).append_right _).subperm
      have hq := Traffic.Step.quiet (t := σ.traffic) hp.minted hu
      simpa only [traffic, hp.inboxes, hp.replies] using hq

end Ensemble

end ChatBot
