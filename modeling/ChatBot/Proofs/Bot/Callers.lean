import ChatBot.Proofs.Bot.Calls
import ChatBot.Proofs.Bot.Order

/-!
# Commands run for the one who asked

A message that is accepted may start a command, which may evaluate an expression, which publishes
commands of its own, and so on.  However deep this goes, and whatever is said in expressions and
replies, every command that is started on the way runs for the one who sent the message.

* `Errand.Serves`: a task works on a request.  `Errand.Proceeds.serves`: it goes on to do so until
  it replies to it, and what it publishes speaks for the same asker.
* `Chronicle.Traced`: the invariant.  Tasks that are put down to a message, and all they did, speak
  for its sender.
* `Chronicle.caller_kept`: what this means for what evaluations publish.
-/

namespace ChatBot

/-! ### Whom messages speak for -/

/-- The message comes from the one who sent `asker`, who always goes by a name. -/
structure Message.SpeaksFor (m asker : Message) : Prop where
  sender : m.sender = asker.sender
  isInGroup : m.isInGroup = asker.isInGroup
  nickname : m.nickname = some (asker.nickname.getD asker.sender)

theorem Message.speaksFor_named (m : Message) (args : String) :
    (m.named.withText args).SpeaksFor m := ⟨rfl, rfl, rfl⟩

theorem Message.SpeaksFor.withText {m asker : Message} (h : m.SpeaksFor asker) (text : String) :
    (m.withText text).SpeaksFor asker := ⟨h.sender, h.isInGroup, h.nickname⟩

/-- What an evaluation publishes comes from the one who asked for the evaluation. -/
theorem Message.SpeaksFor.request {session : Session} {asker : Message}
    (h : session.origin.SpeaksFor asker) (command : String) :
    (session.request command).SpeaksFor asker := ⟨h.sender, h.isInGroup, h.nickname⟩

/-! ### Tasks that work on a request -/

/-- A task works on the request `m`, which called the command `name`. -/
def Errand.Serves (b : Bot) (name : String) (m : Message) : Errand → Prop
  | .activity (.launched (.command serial) payload) =>
    (∃ command, b.installation? serial = some ⟨name, command⟩) ∧ Payload.message? payload = some m
  | .activity (.job recipient (.fresh _ request)) => recipient = .asker name m ∧ request = m
  | .activity (.job recipient (.paused _ _)) => recipient = .asker name m
  | .evaluation recipient session _ => recipient = .asker name m ∧ session.origin = m
  | .result recipient _ => recipient = .asker name m
  | .activity _ => False

/-- The task evaluates on behalf of `m`, and `request` is how it publishes a command. -/
def Errand.Asks (e : Errand) (m request : Message) : Prop :=
  ∃ session command, e.session? = some session ∧ session.origin = m ∧
    request = session.request command

/-- A turn after which no evaluation is under way. -/
inductive Turn.IsPlain : Turn → Prop where
  | ends (result : Except CommandError String) : IsPlain (.ends result)
  | pauses (time : Nat) (course : Course) : IsPlain (.waits (.paused time course))

variable {s : Stage} {e : Errand} {o : Stride} {name : String} {m : Message}

theorem Errand.Serves.mono {b b' : Bot} (h : e.Serves b name m) (hg : b.Grows b') :
    e.Serves b' name m := by
  unfold Errand.Serves at h ⊢
  split at h
  · obtain ⟨⟨command, hi⟩, hm⟩ := h
    exact ⟨⟨command, hg.installed _ _ hi⟩, hm⟩
  · exact h
  · exact h
  · exact h
  · exact h
  · exact h.elim

/-- No service works on a request. -/
theorem Errand.Serves.not_isService {b : Bot} (h : e.Serves b name m) : ¬ e.IsService := by
  rintro (⟨next, rfl⟩ | ⟨a, ha, rfl⟩)
  · exact h
  · cases a with
    | sender => exact h
    | job recipient work =>
        obtain ⟨number, rfl⟩ : ∃ number, recipient = .attendant number := by
          cases recipient with
          | attendant number => exact ⟨number, rfl⟩
          | asker => exact ha.elim
        cases work with
        | fresh => cases h.1
        | paused => cases h
        | talking | asking => cases h.1
    | launched | script | ticker => exact ha

theorem Stage.isPlain_follow (s : Stage) (course : Course) : (s.follow course).IsPlain := by
  induction course with
  | done reply => exact .ends reply
  | wait span next ih =>
      rw [follow]
      split
      · exact ih
      · exact .pauses _ next

theorem Stage.isPlain_begin? {command : Command} {turn : Turn}
    (h : s.begin? m command = some turn) : turn.IsPlain := by
  cases command with
  | echo | help =>
      cases h
      exact .ends _
  | custom start =>
      cases h
      exact s.isPlain_follow _
  | eval =>
      rw [begin?] at h
      split at h <;> cases h <;> exact .ends _

theorem Turn.IsPlain.serves {turn : Turn} (h : turn.IsPlain) (b : Bot) (name : String)
    (m : Message) : (Errand.ofTurn (.asker name m) turn).Serves b name m := by
  cases h <;> rfl

theorem Turn.IsPlain.session? {turn : Turn} (h : turn.IsPlain) (recipient : Recipient) :
    (Errand.ofTurn recipient turn).session? = none := by
  cases h <;> rfl

/-! ### What such tasks do -/

/-- A task that works on a request goes on with it, or replies to it. -/
structure Errand.Continues (s : Stage) (name : String) (m : Message) (e : Errand) (o : Stride)
    (ls : List (Launch Handler)) : Prop where
  fires : s.Fires o.stage ls
  launches : ∀ l ∈ ls, ∃ serial i request args, s.bot.installation? serial = some i ∧
    e.Asks m request ∧ l = ⟨.command serial, Payload.ofMessage (request.withText args)⟩
  next : ∀ e', o.next = some e' → e'.Serves s.bot name m ∧ ∀ d ∈ o.deeds, d.posted? = none
  ends : o.next = none → ∃ result, o.deeds = [.posted (m.respond (replyBody name m result) name)]
  ran : ∀ name' request, .ran name' request ∈ o.deeds → request = m
  published : ∀ request, .published request ∈ o.deeds → e.Asks m request

/-- A task goes on without starting others. -/
theorem Errand.Continues.of_next (hf : s.Fires o.stage []) {e' : Errand} (hn : o.next = some e')
    (he' : e'.Serves s.bot name m)
    (hd : ∀ d ∈ o.deeds, d.posted? = none ∧
      (∀ name' request, d = .ran name' request → request = m) ∧ ∀ request, d ≠ .published request) :
    e.Continues s name m o [] where
  fires := hf
  launches _ hl := nomatch hl
  next e'' hn' := by
    obtain rfl : e' = e'' := Option.some.inj (hn.symm.trans hn')
    exact ⟨he', fun d hdm => (hd d hdm).1⟩
  ends hnone := nomatch hn.symm.trans hnone
  ran name' request hr := (hd _ hr).2.1 name' request rfl
  published request hr := absurd rfl ((hd _ hr).2.2 request)

theorem Errand.Proceeds.serves (h : e.Proceeds s o) (hb : s.bot.Consistent)
    (ho : ∀ c ∈ (s.bot.host.register CoreEvent.onMessage.name).callbacks, c.isCommand = true)
    (he : e.Serves s.bot name m) : ∃ ls, e.Continues s name m o ls := by
  have hsame : s.Fires s [] := (Stage.Quiet.refl s).toFires
  cases h with
  | @launch serial i payload request hi hm =>
      obtain ⟨⟨command, hi'⟩, hm'⟩ := he
      obtain rfl : i = ⟨name, command⟩ := Option.some.inj (hi.symm.trans hi')
      obtain rfl : request = m := Option.some.inj (hm.symm.trans hm')
      exact ⟨[], .of_next hsame rfl ⟨rfl, rfl⟩ (by simp [Chronicle.Deed.posted?])⟩
  | stray h =>
      obtain ⟨⟨command, hi⟩, hm⟩ := he
      rcases h with h | h
      · exact absurd (h.symm.trans hi) (by simp)
      · exact absurd (h.symm.trans hm) (by simp)
  | run ht =>
      obtain ⟨rfl, rfl⟩ := he
      exact ⟨[], .of_next hsame rfl ((Stage.isPlain_begin? ht).serves _ _ _) (by simp)⟩
  | begin hm deadline =>
      obtain ⟨rfl, rfl⟩ := he
      exact ⟨[], .of_next (Stage.quiet_mint s).toFires rfl ⟨rfl, rfl⟩
        (by simp [Chronicle.Deed.posted?])⟩
  | resume =>
      obtain rfl := he
      exact ⟨[], .of_next hsame rfl ((s.isPlain_follow _).serves _ _ _) (by simp)⟩
  | @evaluate recipient session phase move hm =>
      cases hm with
      | @publish listener command resume s' hf =>
          obtain ⟨ls, hl, hq⟩ := Stage.quiet_fireTracked hf
          have hasks :
              (Errand.evaluation recipient session (.subscribed listener command resume)).Asks m
                (session.request command) := ⟨session, command, rfl, he.2, rfl⟩
          refine ⟨ls, hq.toFires, fun l hlm => ?_, ?_, fun h => (by cases h), ?_,
            fun request hr => ?_⟩
          · rcases hb.launches_onMessage ho hl with ⟨serial, i, args, -, hi, -, rfl⟩ | ⟨rfl, -⟩
            · exact ⟨serial, i, _, args, hi, hasks, List.mem_singleton.mp hlm⟩
            · cases hlm
          · rintro _ ⟨⟩
            exact ⟨he, by simp [Session.deed?, Chronicle.Deed.posted?]⟩
          · simp [Session.deed?]
          · obtain rfl : request = session.request command := by
              simpa [Session.deed?, List.filterMap_cons] using hr
            exact hasks
      | subscribe ho =>
          exact ⟨[], .of_next (Stage.quiet_openInbox ho).toFires rfl he
            (by simp [Session.deed?, List.filterMap_cons])⟩
      | close => exact ⟨[], .of_next (Stage.quiet_closeInbox s _ _).toFires rfl he (by simp)⟩
      | refuse | lose | giveUp => exact ⟨[], .of_next hsame rfl he (by simp)⟩
      | receive hr =>
          exact ⟨[], .of_next hsame rfl he (by simp [Session.deed?, List.filterMap_cons])⟩
  | conclude | fail => exact ⟨[], .of_next hsame rfl he.1 (by simp)⟩
  | @report recipient result =>
      obtain rfl := he
      exact ⟨[], Stage.fires_report s result (.asker name m), by simp, fun e' he' => (by cases he'),
        fun _ => ⟨result, rfl⟩, by simp [Recipient.deeds], by simp [Recipient.deeds]⟩
  | send hs => exact he.elim
  | @attend a ha company =>
      cases a with
      | launched handler payload => cases handler <;> first | exact he.elim | exact ha.elim
      | job => exact ha.elim
      | script | sender | ticker => exact he.elim

/-- Evaluations have an address that was minted for them. -/
theorem Errand.Proceeds.session (h : e.Proceeds s o) {e' : Errand} (he' : o.next = some e')
    {session : Session} (hs : e'.session? = some session) :
    e.session? = some session ∨
      o.deeds = [.began session.address] ∧ session.address.serial = s.bot.minted := by
  cases h with
  | begin hm deadline =>
      cases he'
      cases hs
      exact .inr ⟨rfl, rfl⟩
  | evaluate hm =>
      cases he'
      exact .inl hs
  | run ht =>
      cases he'
      rw [(Stage.isPlain_begin? ht).session?] at hs
      cases hs
  | resume =>
      cases he'
      rw [(s.isPlain_follow _).session?] at hs
      cases hs
  | launch | conclude | fail => cases he'; cases hs
  | stray | report => cases he'
  | send hp => cases hp <;> cases he' <;> cases hs
  | attend ha company =>
      obtain ⟨a', -, rfl⟩ := Option.map_eq_some_iff.mp he'
      cases hs

theorem Errand.Proceeds.began (h : e.Proceeds s o) {a : CorrelationId}
    (ha : .began a ∈ o.deeds) :
    o.deeds = [.began a] ∧ a.serial = s.bot.minted ∧ s.bot.minted < o.stage.bot.minted := by
  cases h with
  | begin hm deadline =>
      obtain rfl := Chronicle.Deed.began.inj (List.mem_singleton.mp ha)
      exact ⟨rfl, rfl, Nat.lt_succ_self _⟩
  | launch => cases List.mem_singleton.mp ha
  | evaluate hm =>
      obtain ⟨occurrence, -, ho⟩ := List.mem_filterMap.mp ha
      cases occurrence <;> cases ho
  | report =>
      rename_i recipient result
      cases recipient with
      | asker => cases List.mem_singleton.mp ha
      | attendant => cases ha
  | send hp =>
      cases hp with
      | announce hq hm hannounce =>
          cases hannounce <;> rcases List.mem_pair.mp ha with ha | ha <;> cases ha
      | arrive ht hannounce => cases hannounce <;> cases List.mem_singleton.mp ha
      | discard | hand => cases List.mem_singleton.mp ha
      | refuse | take | stop | lose => cases ha
  | stray | run | resume | conclude | fail | attend => cases ha

/-! ### Chronicles -/

/-- The command `name` is given `m` on behalf of an accepted message: by the message itself, whose
task is the first one that it started, or by what was published on its behalf. -/
structure Acceptance.Assigns (acc : Acceptance) (id : Nat) (name : String) (m : Message) :
    Prop where
  speaks : m.SpeaksFor acc.message
  place : id = acc.stage.spawned ∧ m.address = acc.message.address ∧
      acc.stage.bot.IsCalled name acc.message ∨
    id ≠ acc.stage.spawned ∧ m.isInternal = true

namespace Chronicle

variable {χ χ' : Chronicle}

/-- Nobody listens for messages but the commands of the bot. -/
def CommandsOnly (χ : Chronicle) : Prop :=
  ∀ c ∈ (χ.stage.bot.host.register CoreEvent.onMessage.name).callbacks, c.isCommand = true

/-- What a task may do on behalf of an accepted message. -/
def Faithful (χ : Chronicle) (acc : Acceptance) (id : Nat) : Deed → Prop
  | .ran _ request => request.SpeaksFor acc.message
  | .published request => request.SpeaksFor acc.message ∧ request.recipient = "" ∧
    ∃ a, request.address = .internal a ∧ ⟨some id, .began a⟩ ∈ χ.history ∧
      acc.stage.bot.minted ≤ a.serial
  | .posted reply => ∃ name m result, acc.Assigns id name m ∧
    reply = m.respond (replyBody name m result) name
  | .began _ | .dequeued _ _ | .announced _ _ => True

theorem Faithful.mono {acc : Acceptance} {id : Nat} {d : Deed} (h : χ.Faithful acc id d)
    (hh : ∀ r ∈ χ.history, r ∈ χ'.history) : χ'.Faithful acc id d := by
  cases d with
  | published request =>
      obtain ⟨hs, hr, a, ha, hb, hm⟩ := h
      exact ⟨hs, hr, a, ha, hh _ hb, hm⟩
  | _ => exact h

/-- A task works on a request on behalf of an accepted message.  Its evaluation, if there is one, is
younger than the message. -/
def Employs (χ : Chronicle) (acc : Acceptance) (t : Nat × Errand) : Prop :=
  ∃ name m, t.2.Serves χ.stage.bot name m ∧ acc.Assigns t.1 name m ∧
    ∀ session, t.2.session? = some session → acc.stage.bot.minted ≤ session.address.serial

theorem Employs.mono {acc : Acceptance} {t : Nat × Errand} (h : χ.Employs acc t)
    (hg : χ.stage.bot.Grows χ'.stage.bot) : χ'.Employs acc t := by
  obtain ⟨name, m, hs, ha, hsession⟩ := h
  exact ⟨name, m, hs.mono hg, ha, hsession⟩

/-- All that is put down to an accepted message speaks for its sender. -/
structure Traced (χ : Chronicle) : Prop where
  accepted : ∀ acc ∈ χ.accepted, acc.stage.bot.minted ≤ χ.stage.bot.minted ∧
    ∀ a, acc.message.address = .internal a → a.serial < acc.stage.bot.minted
  caused : ∀ id < χ.stage.spawned, ∀ n, χ.cause id = some n →
    ∃ acc, χ.accepted[n]? = some acc ∧ acc.stage.spawned ≤ id
  serving : ∀ t ∈ χ.tasks, ∀ n acc, χ.cause t.1 = some n → χ.accepted[n]? = some acc →
    χ.Employs acc t
  sessions : ∀ t ∈ χ.tasks, ∀ session, t.2.session? = some session →
    ⟨some t.1, .began session.address⟩ ∈ χ.history
  began : ∀ r ∈ χ.history, ∀ a, r.deed = .began a → a.serial < χ.stage.bot.minted
  unique : ∀ r ∈ χ.history, ∀ r' ∈ χ.history, ∀ a, r.deed = .began a → r'.deed = .began a →
    r.doer = r'.doer
  deeds : ∀ r ∈ χ.history, ∀ id n acc, r.doer = some id → χ.cause id = some n →
    χ.accepted[n]? = some acc → χ.Faithful acc id r.deed

/-- The tasks of the next state, when a task goes on: itself, the others, and new ones. -/
theorem mem_tasks_advance {id : Nat} {e : Errand} {rest : List (Nat × Errand)} {o : Stride}
    {ts : List Activity} (hr : χ.running = (id, e) :: rest) (ho : χ.stage.Spawns o.stage ts)
    {t : Nat × Errand} (ht : t ∈ (χ.advance id rest o).tasks) :
    (∃ e', o.next = some e' ∧ t = (id, e')) ∨ t ∈ χ.tasks ∨ t ∈ χ.stage.newcomers ts := by
  obtain ⟨hp, hp'⟩ := tasks_advance hr ho
  rcases List.mem_append.mp (hp'.mem_iff.mp ht) with ht | ht
  · rcases List.mem_append.mp ht with ht | ht
    · obtain ⟨e', he', rfl⟩ := Option.map_eq_some_iff.mp (Option.mem_toList.mp ht)
      exact .inl ⟨e', he', rfl⟩
    · exact .inr (.inl (hp.mem_iff.mpr (List.mem_cons_of_mem _ ht)))
  · exact .inr (.inr ht)

/-- A task that works on a request starts others on requests that speak for the same asker. -/
theorem Traced.newcomer (h : χ.Traced) {id : Nat} {e : Errand} {o : Stride}
    {ls : List (Launch Handler)} {name : String} {m : Message} {n : Nat} {acc : Acceptance}
    (hid : id < χ.stage.spawned) (hn : χ.cause id = some n) (hacc : χ.accepted[n]? = some acc)
    (ha : acc.Assigns id name m) (hc : e.Continues χ.stage name m o ls) {t : Nat × Errand}
    (ht : t ∈ χ.stage.newcomers (ls.map Launch.activity)) : χ.Employs acc t := by
  obtain ⟨hle, -, a, hm, he⟩ := Stage.mem_newcomers ht
  obtain ⟨l, hl, rfl⟩ := List.mem_map.mp hm
  obtain ⟨serial, ⟨name', command⟩, request, args, hi, ⟨session, said, -, rfl, rfl⟩, rfl⟩ :=
    hc.launches l hl
  refine ⟨name', (session.request said).withText args, ?_,
    ⟨(ha.speaks.request said).withText args, .inr ⟨?_, rfl⟩⟩, ?_⟩
  · rw [he]
    exact ⟨⟨command, hi⟩, Payload.message?_ofMessage _⟩
  · obtain ⟨acc', hacc', hlt⟩ := h.caused id hid n hn
    obtain rfl : acc = acc' := Option.some.inj (hacc.symm.trans hacc')
    exact Nat.ne_of_gt (Nat.lt_of_le_of_lt hlt (Nat.lt_of_lt_of_le hid hle))
  · intro session' hs
    rw [he] at hs
    cases hs

/-- What a task does next, and on which request, if it is put down to a message. -/
theorem Traced.continues (h : χ.Traced) (ho : χ.Orderly) (hcommands : χ.CommandsOnly) {id : Nat}
    {e : Errand} {o : Stride} (hmem : (id, e) ∈ χ.tasks) (he : e.Proceeds χ.stage o) :
    ∃ ls, χ.stage.Fires o.stage ls ∧
      ∀ n acc, χ.cause id = some n → χ.accepted[n]? = some acc → ∃ name m,
        acc.Assigns id name m ∧ e.Continues χ.stage name m o ls ∧
        ∀ session, e.session? = some session → acc.stage.bot.minted ≤ session.address.serial := by
  cases hn : χ.cause id with
  | none =>
      obtain ⟨ls, hf⟩ := he.fires
      exact ⟨ls, hf, fun n acc hn' => (by cases hn')⟩
  | some n =>
      obtain ⟨acc, hacc, -⟩ := h.caused id (ho.fresh _ hmem) n hn
      obtain ⟨name, m, hs, ha, hsession⟩ := h.serving _ hmem n acc hn hacc
      obtain ⟨ls, hc⟩ := he.serves ho.consistent hcommands hs
      refine ⟨ls, hc.fires, fun n' acc' hn' hacc' => ?_⟩
      cases hn'
      cases hacc.symm.trans hacc'
      exact ⟨name, m, ha, hc, hsession⟩

/-- An address is minted once: the one that is minted now was not minted before. -/
theorem Traced.unique_advance (h : χ.Traced) {id : Nat} {e : Errand} {rest : List (Nat × Errand)}
    {o : Stride} (he : e.Proceeds χ.stage o) {r r' : Record}
    (hr : r ∈ (χ.advance id rest o).history) (hr' : r' ∈ (χ.advance id rest o).history)
    {a : CorrelationId} (ha : r.deed = .began a) (ha' : r'.deed = .began a) :
    r.doer = r'.doer := by
  have hfresh {r : Record} (hr : r ∈ χ.history) (ha : r.deed = .began a) {d : Deed}
      (hd : d ∈ o.deeds) (ha' : d = .began a) : False :=
    Nat.ne_of_lt (h.began r hr a ha) (he.began (ha' ▸ hd)).2.1
  rcases List.mem_append.mp hr with hr | hr <;> rcases List.mem_append.mp hr' with hr' | hr'
  · exact h.unique r hr r' hr' a ha ha'
  · obtain ⟨d, hd, rfl⟩ := List.mem_map.mp hr'
    exact (hfresh hr ha hd ha').elim
  · obtain ⟨d, hd, rfl⟩ := List.mem_map.mp hr
    exact (hfresh hr' ha' hd ha).elim
  · obtain ⟨d, hd, rfl⟩ := List.mem_map.mp hr
    obtain ⟨d', hd', rfl⟩ := List.mem_map.mp hr'
    rfl

/-- A task that works on a request on behalf of a message does what it may. -/
theorem Traced.faithful (h : χ.Traced) {id : Nat} {e : Errand} {o : Stride}
    {ls : List (Launch Handler)} {name : String} {m : Message} {acc : Acceptance}
    (hmem : (id, e) ∈ χ.tasks) (ha : acc.Assigns id name m)
    (hc : e.Continues χ.stage name m o ls)
    (hsession : ∀ session, e.session? = some session →
      acc.stage.bot.minted ≤ session.address.serial) {d : Deed} (hd : d ∈ o.deeds) :
    χ.Faithful acc id d := by
  cases d with
  | ran name' request => exact hc.ran name' request hd ▸ ha.speaks
  | published request =>
      obtain ⟨session, command, hs, rfl, rfl⟩ := hc.published request hd
      exact ⟨ha.speaks.request command, rfl, session.address, rfl, h.sessions _ hmem session hs,
        hsession session hs⟩
  | posted reply =>
      cases hnext : o.next with
      | some e' => cases (hc.next e' hnext).2 _ hd
      | none =>
          obtain ⟨result, hdeeds⟩ := hc.ends hnext
          rw [hdeeds, List.mem_singleton] at hd
          exact ⟨name, m, result, ha, Deed.posted.inj hd⟩
  | began | dequeued | announced => trivial

theorem Traced.advance (h : χ.Traced) (ho : χ.Orderly) (hcommands : χ.CommandsOnly) {id : Nat}
    {e : Errand} {rest : List (Nat × Errand)} {o : Stride} (hr : χ.running = (id, e) :: rest)
    (he : e.Proceeds χ.stage o) : (χ.advance id rest o).Traced := by
  have hmem : (id, e) ∈ χ.tasks := List.mem_append_right _ (hr ▸ List.mem_cons_self)
  have hid : id < χ.stage.spawned := ho.fresh _ hmem
  obtain ⟨ls, hf, hserves⟩ := h.continues ho hcommands hmem he
  have hg : χ.stage.bot.Grows o.stage.bot := hf.keeps.grows
  have hminted : χ.stage.bot.minted ≤ o.stage.bot.minted := hg.minted
  have hhistory : ∀ r ∈ χ.history, r ∈ (χ.advance id rest o).history := fun r hr =>
    List.mem_append_left _ hr
  refine
    { accepted := fun acc hacc =>
        ⟨Nat.le_trans (h.accepted acc hacc).1 hminted, (h.accepted acc hacc).2⟩
      caused := fun id' hid' n hn => ?_
      serving := fun t ht n acc hn hacc => ?_
      sessions := fun t ht session hs => ?_
      began := fun r hr a ha => ?_
      unique := fun r hr r' hr' a ha ha' => h.unique_advance he hr hr' ha ha'
      deeds := fun r hr id' n acc hd hn hacc => ?_ }
  · change χ.causes (χ.cause id) id' = some n at hn
    rcases Nat.lt_or_ge id' χ.stage.spawned with hlt | hge
    · rw [causes_of_lt hlt] at hn
      exact h.caused id' hlt n hn
    · rw [causes_of_le hge] at hn
      obtain ⟨acc, hacc, hle⟩ := h.caused id hid n hn
      exact ⟨acc, hacc, Nat.le_trans hle (Nat.le_trans (Nat.le_of_lt hid) hge)⟩
  · change χ.causes (χ.cause id) t.1 = some n at hn
    rcases mem_tasks_advance hr hf.spawns ht with ⟨e', he', rfl⟩ | ht | ht
    · rw [causes_of_lt hid] at hn
      obtain ⟨name, m, ha, hc, hsession⟩ := hserves n acc hn hacc
      refine ⟨name, m, (hc.next e' he').1.mono hg, ha, fun session hs => ?_⟩
      rcases he.session he' hs with hs | ⟨-, hs⟩
      · exact hsession session hs
      · exact hs ▸ (h.accepted acc (List.mem_of_getElem? hacc)).1
    · rw [causes_of_lt (ho.fresh t ht)] at hn
      exact (h.serving t ht n acc hn hacc).mono hg
    · rw [causes_of_le (Stage.mem_newcomers ht).1] at hn
      obtain ⟨name, m, ha, hc, -⟩ := hserves n acc hn hacc
      exact (h.newcomer hid hn hacc ha hc ht).mono hg
  · rcases mem_tasks_advance hr hf.spawns ht with ⟨e', he', rfl⟩ | ht | ht
    · rcases he.session he' hs with hs | ⟨hd, -⟩
      · exact hhistory _ (h.sessions _ hmem session hs)
      · refine List.mem_append_right _ ?_
        rw [hd]
        exact List.mem_singleton_self _
    · exact hhistory _ (h.sessions t ht session hs)
    · obtain ⟨-, -, a, hm, he'⟩ := Stage.mem_newcomers ht
      rw [he', idle_launches ls a hm] at hs
      cases hs
  · rcases List.mem_append.mp hr with hr | hr
    · exact Nat.lt_of_lt_of_le (h.began r hr a ha) hminted
    · obtain ⟨d, hd, rfl⟩ := List.mem_map.mp hr
      obtain rfl : d = .began a := ha
      obtain ⟨-, hs, hlt⟩ := he.began hd
      exact hs ▸ hlt
  · change χ.causes (χ.cause id) id' = some n at hn
    rcases List.mem_append.mp hr with hr | hr
    · rw [causes_of_lt (ho.doers r hr id' hd)] at hn
      exact (h.deeds r hr id' n acc hd hn hacc).mono hhistory
    · obtain ⟨d, hdm, rfl⟩ := List.mem_map.mp hr
      cases hd
      rw [causes_of_lt hid] at hn
      obtain ⟨name, m, ha, hc, hsession⟩ := hserves n acc hn hacc
      exact (h.faithful hmem ha hc hsession hdm).mono hhistory

/-- A message is accepted and starts the command that it calls, if there is one. -/
structure Enters (χ : Chronicle) (acc : Acceptance) (ts : List Activity) : Prop where
  stage : acc.stage = χ.stage
  address : ∀ a, acc.message.address = .internal a → a.serial < χ.stage.bot.minted
  starts : (∃ serial i args, χ.stage.bot.IsCalled i.name acc.message ∧
      χ.stage.bot.installation? serial = some i ∧
      ts = [.launched (.command serial) (Payload.ofMessage (acc.message.named.withText args))]) ∨
    ts = [] ∧ ∀ name, ¬ χ.stage.bot.IsCalled name acc.message

/-- **What a step is, where only commands listen for messages.** -/
theorem Orderly.cases_entry (ho : χ.Orderly) (hcommands : χ.CommandsOnly) (hs : Step χ χ') :
    (∃ id e rest o, χ.running = (id, e) :: rest ∧ e.Proceeds χ.stage o ∧
      χ' = χ.advance id rest o) ∨
    ∃ entry ts, Shifts χ χ' (entry.map fun _ => χ.accepted.length) ts ∧
      χ'.accepted = χ.accepted ++ entry.toList ∧ ∀ acc, entry = some acc → χ.Enters acc ts := by
  rcases ho.cases hs with h | ⟨m, s, ls, -, hm, hl, rfl, hs⟩ | ⟨⟨ts, hs⟩, hacc⟩
  · exact .inl h
  · refine .inr ⟨some ⟨m, χ.stage⟩, _, hs, rfl, fun acc ha => ?_⟩
    cases ha
    refine ⟨rfl, hm, ?_⟩
    rcases ho.consistent.launches_onMessage hcommands hl with
      ⟨serial, i, args, hc, hi, -, rfl⟩ | ⟨rfl, hc⟩
    · exact .inl ⟨serial, i, args, hc, hi, rfl⟩
    · exact .inr ⟨rfl, hc⟩
  · refine .inr ⟨none, ts, hs, ?_, fun acc ha => (by cases ha)⟩
    rw [hacc]
    exact (List.append_nil _).symm

theorem getElem?_accepted {entry : Option Acceptance} {n : Nat} {acc : Acceptance}
    (hacc : χ'.accepted = χ.accepted ++ entry.toList) (hn : χ.accepted[n]? = some acc) :
    χ'.accepted[n]? = some acc := by
  rw [hacc, List.getElem?_append_left (List.getElem?_eq_some_iff.mp hn).1, hn]

/-- A message that has been accepted by now was accepted before, or just now. -/
theorem getElem?_accepted_cases {entry : Option Acceptance} {n : Nat} {acc : Acceptance}
    (hacc : χ'.accepted = χ.accepted ++ entry.toList) (hn : χ'.accepted[n]? = some acc) :
    χ.accepted[n]? = some acc ∨ entry = some acc ∧ n = χ.accepted.length := by
  rw [hacc] at hn
  rcases Nat.lt_trichotomy n χ.accepted.length with hlt | rfl | hgt
  · rw [List.getElem?_append_left hlt] at hn
    exact .inl hn
  · rw [List.getElem?_append_right (Nat.le_refl _), Nat.sub_self] at hn
    cases entry with
    | none => cases hn
    | some entered => exact .inr ⟨hn, rfl⟩
  · rw [List.getElem?_eq_none] at hn
    · cases hn
    · cases entry <;> simp <;> omega

/-- The message that tasks are put down to which a message starts. -/
theorem getElem?_entry {entry : Option Acceptance} {n : Nat}
    (hacc : χ'.accepted = χ.accepted ++ entry.toList)
    (hn : (entry.map fun _ => χ.accepted.length) = some n) :
    ∃ acc, entry = some acc ∧ χ'.accepted[n]? = some acc := by
  obtain ⟨acc, rfl, rfl⟩ := Option.map_eq_some_iff.mp hn
  exact ⟨acc, rfl, by rw [hacc]; simp⟩

theorem Traced.of_shifts (h : χ.Traced) (ho : χ.Orderly) {entry : Option Acceptance}
    {ts : List Activity} (hs : Shifts χ χ' (entry.map fun _ => χ.accepted.length) ts)
    (hacc : χ'.accepted = χ.accepted ++ entry.toList)
    (he : ∀ acc, entry = some acc → χ.Enters acc ts) : χ'.Traced := by
  obtain ⟨lost, hp, -⟩ := hs.tasks
  obtain ⟨rs, hh, hrs⟩ := hs.history
  have hmem : ∀ t ∈ χ'.tasks, t ∈ χ.tasks ∨ t ∈ χ.stage.newcomers ts := fun t ht =>
    List.mem_append.mp (hp.mem_iff.mp (List.mem_append_left _ ht))
  have hhistory : ∀ r ∈ χ.history, r ∈ χ'.history := fun r hr => hh ▸ List.mem_append_left _ hr
  -- what is entered was posted from outside
  have hold : ∀ r ∈ χ'.history, (∀ m, r.deed ≠ .posted m) ∨ r.doer ≠ none → r ∈ χ.history := by
    intro r hr hne
    rw [hh] at hr
    refine (List.mem_append.mp hr).resolve_right fun hr => ?_
    obtain ⟨hd, m, hm⟩ := hrs r hr
    exact hne.elim (fun hne => hne m hm) (fun hne => hne hd)
  have hcause {id n : Nat} (hid : id < χ.stage.spawned) (hn : χ'.cause id = some n) :
      χ.cause id = some n := by
    rw [hs.cause, causes_of_lt hid] at hn
    exact hn
  -- an old task has an old cause
  have hget {id n : Nat} {acc : Acceptance} (hid : id < χ.stage.spawned)
      (hn : χ.cause id = some n) (ha : χ'.accepted[n]? = some acc) : χ.accepted[n]? = some acc := by
    obtain ⟨acc', ha', -⟩ := h.caused id hid n hn
    rw [ha', ← getElem?_accepted hacc ha', ha]
  refine
    { accepted := fun acc ha => ?_
      caused := fun id hid n hn => ?_
      serving := fun t ht n acc hn ha => ?_
      sessions := fun t ht session hse => ?_
      began := fun r hr a ha => ?_
      unique := fun r hr r' hr' a ha ha' => ?_
      deeds := fun r hr id n acc hd hn ha => ?_ }
  · rw [hacc] at ha
    rcases List.mem_append.mp ha with ha | ha
    · exact ⟨Nat.le_trans (h.accepted acc ha).1 hs.grows.minted, (h.accepted acc ha).2⟩
    · have hen := he acc (Option.mem_toList.mp ha)
      rw [hen.stage]
      exact ⟨hs.grows.minted, hen.address⟩
  · rcases Nat.lt_or_ge id χ.stage.spawned with hlt | hge
    · obtain ⟨acc, ha, hle⟩ := h.caused id hlt n (hcause hlt hn)
      exact ⟨acc, getElem?_accepted hacc ha, hle⟩
    · rw [hs.cause, causes_of_le hge] at hn
      obtain ⟨acc, hentry, ha⟩ := getElem?_entry hacc hn
      exact ⟨acc, ha, (he acc hentry).stage ▸ hge⟩
  · rcases hmem t ht with ht | ht
    · have hid := ho.fresh t ht
      have hn := hcause hid hn
      exact (h.serving t ht n acc hn (hget hid hn ha)).mono hs.grows
    · obtain ⟨hle, hlt, a, hm, het⟩ := Stage.mem_newcomers ht
      rw [hs.cause, causes_of_le hle] at hn
      obtain ⟨acc', hentry, ha'⟩ := getElem?_entry hacc hn
      obtain rfl : acc = acc' := Option.some.inj (ha.symm.trans ha')
      have hen := he acc hentry
      rcases hen.starts with ⟨serial, ⟨name, command⟩, args, hc, hi, rfl⟩ | ⟨rfl, -⟩
      · rw [List.mem_singleton] at hm
        subst hm
        refine ⟨name, acc.message.named.withText args, ?_,
          ⟨Message.speaksFor_named _ _, .inl ⟨?_, rfl, hen.stage ▸ hc⟩⟩, ?_⟩
        · rw [het]
          exact ⟨⟨command, hs.grows.installed _ _ hi⟩, Payload.message?_ofMessage _⟩
        · rw [hen.stage]
          exact Nat.le_antisymm (Nat.le_of_lt_succ hlt) hle
        · intro session hse
          rw [het] at hse
          cases hse
      · cases hm
  · rcases hmem t ht with ht | ht
    · exact hhistory _ (h.sessions t ht session hse)
    · obtain ⟨-, -, a, hm, het⟩ := Stage.mem_newcomers ht
      rw [het, hs.idle a hm] at hse
      cases hse
  · exact Nat.lt_of_lt_of_le
      (h.began r (hold r hr (.inl fun m hm => by rw [ha] at hm; cases hm)) a ha) hs.grows.minted
  · exact h.unique r (hold r hr (.inl fun m hm => by rw [ha] at hm; cases hm)) r'
      (hold r' hr' (.inl fun m hm => by rw [ha'] at hm; cases hm)) a ha ha'
  · have hr := hold r hr (.inr (by rw [hd]; simp))
    have hid := ho.doers r hr id hd
    have hn := hcause hid hn
    exact (h.deeds r hr id n acc hd hn (hget hid hn ha)).mono hhistory

theorem Traced.step (h : χ.Traced) (ho : χ.Orderly) (hcommands : χ.CommandsOnly)
    (hs : Step χ χ') : χ'.Traced := by
  rcases ho.cases_entry hcommands hs with ⟨id, e, rest, o, hr, he, rfl⟩ | ⟨entry, ts, hs, hacc, he⟩
  · exact h.advance ho hcommands hr he
  · exact h.of_shifts ho hs hacc he

theorem traced_start (b : Bot) : (start b).Traced where
  accepted _ h := nomatch h
  caused _ _ _ h := nomatch h
  serving _ h := nomatch h
  sessions _ h := nomatch h
  began _ h := nomatch h
  unique _ h := nomatch h
  deeds _ h := nomatch h

theorem Run.traced (h : Run CommandsOnly χ) : χ.Traced := by
  induction h with
  | start => exact traced_start _
  | step hrun hs _ ih => exact ih.step hrun.orderly hrun.holds hs

/-- **Composition does not change who asks.**  Where only commands listen for messages, take a
message that was accepted, and anything that was done by a task that is put down to it, however many
evaluations lie between them.  A command that an evaluation published has the sender of the message,
its group flag, and its alias or else its sender for an alias; it is for nobody in particular, and
goes back to an address that this task, and no one else, has minted since the message came in, which
is not that of the message.  Every command that was run was given the same sender, flag and
alias. -/
theorem caller_kept (h : Run CommandsOnly χ) {n : Nat} {acc : Acceptance}
    (ha : χ.accepted[n]? = some acc) {r : Record} (hr : r ∈ χ.history) {id : Nat}
    (hd : r.doer = some id) (hn : χ.cause id = some n) :
    (∀ request, r.deed = .published request →
      request.sender = acc.message.sender ∧ request.isInGroup = acc.message.isInGroup ∧
      request.nickname = some (acc.message.nickname.getD acc.message.sender) ∧
      request.recipient = "" ∧
      ∃ a, request.address = .internal a ∧ ⟨some id, .began a⟩ ∈ χ.history ∧
        (∀ r' ∈ χ.history, r'.deed = .began a → r'.doer = some id) ∧
        acc.message.address ≠ .internal a) ∧
    ∀ name request, r.deed = .ran name request →
      request.sender = acc.message.sender ∧ request.isInGroup = acc.message.isInGroup ∧
      request.nickname = some (acc.message.nickname.getD acc.message.sender) := by
  have ht := h.traced
  have hf := ht.deeds r hr id n acc hd hn ha
  refine ⟨fun request hp => ?_, fun name request hp => ?_⟩
  · rw [hp] at hf
    obtain ⟨hs, hrecipient, a, haddress, hbegan, hle⟩ := hf
    refine ⟨hs.sender, hs.isInGroup, hs.nickname, hrecipient, a, haddress, hbegan,
      fun r' hr' hb => (ht.unique r' hr' _ hbegan a hb rfl), fun hown => ?_⟩
    exact Nat.not_lt.mpr hle ((ht.accepted acc (List.mem_of_getElem? ha)).2 a hown)
  · rw [hp] at hf
    exact ⟨hf.sender, hf.isInGroup, hf.nickname⟩

theorem commandsOnly_of_all
    (h : (χ.stage.bot.host.register CoreEvent.onMessage.name).callbacks.all Callback.isCommand =
      true) : χ.CommandsOnly := List.all_eq_true.mp h

namespace Sample

/-- Someone wants an expression evaluated that is a command. -/
def asked : Message := { body := .text "!eval !a", sender := "ann", address := .external "room" }

/-- What the eval command is given. -/
def request : Message := asked.named.withText "!a"

def session : Session := ⟨request, ⟨evaluationOrigin, 1⟩, 5000⟩

def evaluation (phase : Phase) : Errand := .evaluation (.asker "eval" request) session phase

def equipped : Chronicle :=
  (start Bot.Sample.bare).pass
    ((start Bot.Sample.bare).stage.modify fun b => (b.edit (.add "eval" "" .eval)).2)

def accepting : Chronicle := equipped.accept asked (equipped.stage.receive asked).2

def launching : Chronicle :=
  { accepting.pass { accepting.stage with ready := [] } with
    running := [(0, .activity (.launched (.command 0) (Payload.ofMessage request)))] }

def running : Chronicle :=
  launching.advance 0 [] ⟨some (.activity (.job (.asker "eval" request) (.fresh .eval request))),
    launching.stage, [.ran "eval" request]⟩

def evaluating : Chronicle :=
  running.advance 0 [] ⟨some (evaluation (.talking (Language.evaluate {} "!a"))),
    (running.stage.openSession request 5000).2, [.began session.address]⟩

/-- The stage once there is an inbox. -/
def opened : Stage :=
  evaluating.stage.modify fun b => { b with
    host := (b.host.subscribe CoreEvent.onMessageSent.name
      (inboxCallback 2 session.address)).toOption.getD {}
    minted := 3
    inboxes := [2] }

def asking : Chronicle :=
  evaluating.advance 0 [] ⟨some (evaluation (.subscribed 2 "!a" .done)), opened, []⟩

/-- The command is published, and nobody answers it. -/
def waiting : Chronicle :=
  asking.advance 0 [] ⟨some (evaluation (.waiting 2 "!a" .done)), opened.track [],
    [.published (session.request "!a")]⟩

theorem run_equipped : Run CommandsOnly equipped := by
  have hb : Bot.ofConfig {} = .ok Bot.Sample.bare := rfl
  have he : (BotEdit.add "eval" "" .eval).IsUnrelated := trivial
  exact (Run.start hb (commandsOnly_of_all rfl)).step (.edit he) (commandsOnly_of_all rfl)

theorem run_waiting : Run CommandsOnly waiting := by
  have hreceive : equipped.stage.receive asked = (.ok true, (equipped.stage.receive asked).2) := by
    refine Prod.ext ?_ rfl
    with_unfolding_all rfl
  have r₀ : Run CommandsOnly accepting :=
    run_equipped.step (.receive hreceive (by rintro a ⟨⟩))
      (commandsOnly_of_all (by with_unfolding_all rfl))
  have htasks : launching.tasks = accepting.tasks := by with_unfolding_all rfl
  have r₁ : Run CommandsOnly launching :=
    r₀.step (.reschedule rfl rfl (Nat.le_refl _) (.of_eq htasks))
      (commandsOnly_of_all (by with_unfolding_all rfl))
  have hinstalled : launching.stage.bot.installation? 0 = some ⟨"eval", .eval⟩ := by
    with_unfolding_all rfl
  have r₂ : Run CommandsOnly running :=
    r₁.step (.proceed rfl (.launch hinstalled rfl))
      (commandsOnly_of_all (by with_unfolding_all rfl))
  have hm : Eval.request request.text = .ok (.evaluate "!a" none) := by with_unfolding_all rfl
  have r₃ : Run CommandsOnly evaluating :=
    r₂.step (by with_unfolding_all exact .proceed rfl (.begin hm 5000))
      (commandsOnly_of_all (by with_unfolding_all rfl))
  have hrunning : evaluating.running = [(0, evaluation (.talking (.ask "!a" .done)))] := by
    rw [← Ensemble.Sample.evaluate_text]
    rfl
  have ho : evaluating.stage.openInbox session.address = .ok (2, opened) := by
    with_unfolding_all rfl
  have r₄ : Run CommandsOnly asking :=
    r₃.step (.proceed hrunning (.evaluate (.subscribe ho)))
      (commandsOnly_of_all (by with_unfolding_all rfl))
  have hf : asking.stage.fireTracked .onMessage (Payload.ofMessage (session.request "!a")) =
      .ok (opened.track []) := by
    with_unfolding_all rfl
  exact r₄.step (.proceed rfl (.evaluate (.publish hf)))
    (commandsOnly_of_all (by with_unfolding_all rfl))

end Sample

theorem caller_kept_sample :
    Run CommandsOnly Sample.waiting ∧
      Sample.waiting.accepted[0]? = some ⟨Sample.asked, Sample.equipped.stage⟩ ∧
      ⟨some 0, .published (Sample.session.request "!a")⟩ ∈ Sample.waiting.history ∧
      Sample.waiting.cause 0 = some 0 ∧
      (Sample.session.request "!a").nickname = some "ann" := by
  have ha : Sample.waiting.accepted[0]? = some ⟨Sample.asked, Sample.equipped.stage⟩ := rfl
  have hr : ⟨some 0, .published (Sample.session.request "!a")⟩ ∈ Sample.waiting.history :=
    List.mem_append_right _ (List.mem_singleton_self _)
  have hn : Sample.waiting.cause 0 = some 0 := by with_unfolding_all rfl
  obtain ⟨hp, -⟩ := caller_kept Sample.run_waiting ha hr rfl hn
  obtain ⟨-, -, hnickname, -⟩ := hp _ rfl
  exact ⟨Sample.run_waiting, ha, hr, hn, hnickname⟩

end Chronicle

end ChatBot
