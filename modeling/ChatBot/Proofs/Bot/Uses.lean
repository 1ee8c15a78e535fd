import ChatBot.Console
import ChatBot.Proofs.Bot.Callers
import ChatBot.Proofs.Bot.Turns

/-!
# What a bot does is a chronicle

Whoever uses a bot gives it messages, starts and stops senders, changes its commands, and lets time
pass.  In between tasks take turns.  All of this is made of the steps of a chronicle, so that what
holds of every run of chronicles holds of every bot at work, and of the program.

* `Stage.Goes` is what one can do with a bot, and `Stage.Used` are the stages that this leads to.
* `Stage.Used.exists_run`: every one of them is the stage of a chronicle.
* `Console.Reached.exists_run`: so is that of a bot on a console.
-/

namespace ChatBot

namespace Chronicle

variable {χ χ' : Chronicle} {s s' : Stage} {running running' : List (Nat × Errand)}

/-- A step with which no message is accepted, and those are left alone who listen for messages. -/
structure Moves (χ χ' : Chronicle) : Prop where
  step : Step χ χ'
  accepted : χ'.accepted = χ.accepted
  onMessage : χ'.stage.bot.host.register CoreEvent.onMessage.name =
    χ.stage.bot.host.register CoreEvent.onMessage.name

/-- Such steps lead to the stage `s`, with these tasks in the middle of a turn. -/
def GetsTo (χ : Chronicle) (s : Stage) (running : List (Nat × Errand)) : Prop :=
  ∃ χ', Relation.ReflTransGen Moves χ χ' ∧ χ'.Orderly ∧ χ'.stage = s ∧ χ'.running = running

theorem GetsTo.refl (ho : χ.Orderly) : χ.GetsTo χ.stage χ.running := ⟨χ, .refl, ho, rfl, rfl⟩

theorem GetsTo.trans (h : χ.GetsTo s running)
    (h' : ∀ χ' : Chronicle, χ'.Orderly → χ'.stage = s → χ'.running = running →
      χ'.GetsTo s' running') : χ.GetsTo s' running' := by
  obtain ⟨χ₁, h₁, ho₁, hs₁, hr₁⟩ := h
  obtain ⟨χ₂, h₂, ho₂, hs₂, hr₂⟩ := h' χ₁ ho₁ hs₁ hr₁
  exact ⟨χ₂, h₁.trans h₂, ho₂, hs₂, hr₂⟩

theorem Orderly.getsTo (ho : χ.Orderly) (h : Moves χ χ') : χ.GetsTo χ'.stage χ'.running :=
  ⟨χ', .single h, ho.step h.step, rfl, rfl⟩

/-! ### Turns -/

theorem Orderly.getsTo_proceed (ho : χ.Orderly) {id : Nat} {e : Errand} {o : Stride}
    {rest : List (Nat × Errand)} (hr : χ.running = (id, e) :: rest) (h : e.Proceeds χ.stage o) :
    χ.GetsTo o.stage ((o.next.map (id, ·)).toList ++ rest) := by
  obtain ⟨ls, hf⟩ := h.fires
  exact ho.getsTo ⟨.proceed hr h, rfl, (hf.keeps.host ho.consistent.separated).2.2⟩

/-- A task that is running goes on. -/
theorem Orderly.getsTo_of_leads (ho : χ.Orderly) {id : Nat} {e : Errand} {next : Option Errand}
    {rest : List (Nat × Errand)} (hr : χ.running = (id, e) :: rest)
    (h : Errand.Leads χ.stage e s next) :
    χ.GetsTo s ((next.map (id, ·)).toList ++ rest) := by
  generalize hs : χ.stage = s₀ at h
  induction h generalizing χ with
  | refl =>
      have h := GetsTo.refl ho
      rw [hs, hr] at h
      exact h
  | ends h hn =>
      subst hs
      have h := ho.getsTo_proceed hr h
      rw [hn] at h
      exact h
  | more h hn _ ih =>
      subst hs
      have h := ho.getsTo_proceed hr h
      rw [hn] at h
      exact h.trans fun χ' ho' hs' hr' => ih ho' hr' hs'

/-- Tasks begin or end their turns, and time goes by. -/
theorem Orderly.getsTo_reschedule (ho : χ.Orderly) (hb : s.bot = χ.stage.bot)
    (hs : s.spawned = χ.stage.spawned) (hn : χ.stage.now ≤ s.now)
    (ht : (s.scheduled ++ running).Perm χ.tasks) : χ.GetsTo s running := by
  have hm : Moves χ { χ.pass s with running := running } :=
    ⟨.reschedule hb hs hn ht, rfl, congrArg (·.host.register CoreEvent.onMessage.name) hb⟩
  exact ho.getsTo hm

end Chronicle

/-! ### The schedule -/

namespace Stage

theorem scheduled_wake (p : Program Bot Activity) (s : Stage) :
    (Stage.scheduled (s.wake p)).Perm s.scheduled := (Schedule.perm_wake p s).map _

theorem wake_eq (p : Program Bot Activity) (s : Stage) :
    Stage.bot (s.wake p) = s.bot ∧ (s.wake p).spawned = s.spawned ∧ (s.wake p).now = s.now := by
  rw [Schedule.wake]
  split <;> exact ⟨rfl, rfl, rfl⟩

end Stage

namespace Chronicle

variable {χ : Chronicle} {s : Stage} {company : Company}

theorem tasks_of_idle (hr : χ.running = []) : χ.tasks = χ.stage.scheduled := by
  rw [tasks, hr, List.append_nil]

/-- The first task that is ready has its turn. -/
theorem Orderly.getsTo_step? (ho : χ.Orderly) (hr : χ.running = [])
    (h : χ.stage.step? company.program = some s) : χ.GetsTo s [] := by
  obtain ⟨hbot, hspawned, hnow⟩ := Stage.wake_eq company.program χ.stage
  have hw := Stage.scheduled_wake company.program χ.stage
  obtain ⟨id, a, rest, next, s₁, hready, hpoll, rfl⟩ := Schedule.step?_eq_some h
  -- the task begins its turn
  have hbegin : χ.GetsTo { χ.stage.wake company.program with ready := rest }
      [(id, .ofActivity a)] := by
    refine ho.getsTo_reschedule hbot hspawned (Nat.le_of_eq hnow.symm) ?_
    rw [tasks_of_idle hr]
    refine List.Perm.trans ?_ hw
    rw [Stage.scheduled, Stage.scheduled, hready]
    exact List.perm_append_comm
  refine hbegin.trans fun χ₁ ho₁ hs₁ hr₁ => ?_
  have hturn := ho₁.getsTo_of_leads hr₁ (Errand.leads_poll ho₁.filed company a)
  rw [hs₁] at hturn
  change Stage.poll company a _ = _ at hpoll
  rw [hpoll] at hturn
  refine hturn.trans fun χ₂ ho₂ hs₂ hr₂ => ?_
  -- it ends its turn
  cases next with
  | none =>
      refine ho₂.getsTo_reschedule (by rw [hs₂]; rfl) (by rw [hs₂]; rfl)
        (Nat.le_of_eq (by rw [hs₂]; rfl)) ?_
      rw [tasks, hs₂, hr₂]
      exact .refl _
  | some a' =>
      refine ho₂.getsTo_reschedule (by rw [hs₂]; rfl) (by rw [hs₂]) (Nat.le_of_eq (by rw [hs₂])) ?_
      rw [tasks, hs₂, hr₂, List.append_nil, Stage.scheduled, ← List.append_assoc, List.map_append]
      exact .refl _

end Chronicle

namespace Stage

variable {s s' s'' : Stage} {company : Company}

/-- A bot at work gets from `s` to `s'` by steps with which no message is accepted, and which leave
those alone who listen for messages. -/
def Becomes (s s' : Stage) : Prop :=
  ∀ χ : Chronicle, χ.Orderly → χ.stage = s → χ.running = [] → χ.GetsTo s' []

theorem Becomes.refl (s : Stage) : s.Becomes s := by
  rintro χ ho rfl hr
  have h := Chronicle.GetsTo.refl ho
  rw [hr] at h
  exact h

theorem Becomes.trans (h : s.Becomes s') (h' : s'.Becomes s'') : s.Becomes s'' :=
  fun χ ho hs hr => (h χ ho hs hr).trans h'

/-- One step from outside. -/
theorem becomes_of_step
    (hm : s.bot.host.Separated → s'.bot.host.register CoreEvent.onMessage.name =
      s.bot.host.register CoreEvent.onMessage.name)
    (h : ∀ χ : Chronicle, χ.stage = s → χ.running = [] →
      ∃ χ', Chronicle.Step χ χ' ∧ χ'.accepted = χ.accepted ∧ χ'.stage = s' ∧ χ'.running = []) :
    s.Becomes s' := by
  rintro χ ho rfl hr
  obtain ⟨χ', hs, ha, rfl, hr'⟩ := h χ rfl hr
  have h := ho.getsTo ⟨hs, ha, hm ho.consistent.separated⟩
  rw [hr'] at h
  exact h

theorem Fires.register {ls : List (Launch Handler)} (h : s.Fires s' ls)
    (hs : s.bot.host.Separated) :
    s'.bot.host.register CoreEvent.onMessage.name =
      s.bot.host.register CoreEvent.onMessage.name := (h.keeps.host hs).2.2

/-! ### Time goes by -/

/-- The clock goes on, and the tasks that are kept track of are others. -/
theorem becomes_of_eq (hb : s'.bot = s.bot) (hs : s'.spawned = s.spawned) (hn : s.now ≤ s'.now)
    (ht : s'.scheduled = s.scheduled) : s.Becomes s' := by
  rintro χ ho rfl hr
  refine ho.getsTo_reschedule hb hs hn ?_
  rw [Chronicle.tasks_of_idle hr, List.append_nil, ht]

theorem becomes_step? (h : s.step? company.program = some s') : s.Becomes s' := by
  rintro χ ho rfl hr
  exact ho.getsTo_step? hr h

theorem becomes_jump (s : Stage) (time : Nat) : s.Becomes (s.jump time) :=
  becomes_of_eq rfl rfl (Nat.le_max_left _ _) rfl

theorem becomes_settleWithin (company : Company) (turns : Nat) (s : Stage) :
    s.Becomes (s.settleWithin company.program turns) := by
  induction turns generalizing s with
  | zero => exact .refl s
  | succ turns ih =>
      rw [Schedule.settleWithin]
      cases h : s.step? company.program with
      | none => exact .refl s
      | some s' => exact (becomes_step? h).trans (ih s')

theorem becomes_settle (company : Company) (s : Stage) : s.Becomes (s.settle company.program) :=
  becomes_settleWithin company Schedule.patience s

theorem becomes_advance (company : Company) (span : Nat) (s : Stage) :
    s.Becomes (s.advance company.program span) := by
  rw [Schedule.advance]
  generalize s.now + span = time
  induction Schedule.patience generalizing s with
  | zero => exact .refl s
  | succ turns ih =>
      rw [Schedule.advanceWithin]
      have hs := becomes_settle company s
      have hlast := (hs.trans (becomes_jump _ time)).trans (becomes_settle company _)
      split
      · split
        · exact (hs.trans (becomes_jump _ _)).trans (ih _)
        · exact hlast
      · exact hlast

theorem becomes_await (company : Company) (isOver : Stage → Bool) (deadline : Option Nat)
    (s : Stage) : s.Becomes (s.await company.program isOver deadline).2 := by
  rw [Schedule.await]
  induction Schedule.patience generalizing s with
  | zero => exact .refl s
  | succ turns ih =>
      rw [Schedule.awaitWithin]
      have hs := becomes_settleWithin company Schedule.stretch s
      split
      · exact .refl s
      · split
        · exact .refl s
        · dsimp only
          split
          · exact hs
          · split
            · exact hs.trans (ih _)
            · split
              · exact hs
              · exact (hs.trans (becomes_jump _ _)).trans (ih _)

/-! ### What is asked of a bot -/

theorem becomes_fire {event : String} {payload : Payload} {ids : List Nat}
    (h : s.fire event payload = .ok (ids, s')) : s.Becomes s' := by
  obtain ⟨ls, -, hq⟩ := quiet_fire h
  exact becomes_of_step hq.toFires.register fun χ hs hr => ⟨_, .fire (hs ▸ h), rfl, rfl, hr⟩

theorem becomes_tell (s : Stage) (event : CoreEvent) (payload : Payload) :
    s.Becomes (s.tell event payload).2 := by
  rw [tell, fireTracked]
  cases h : s.fire event.name payload with
  | error e => exact .refl s
  | ok fired => exact (becomes_fire h).trans (becomes_of_eq rfl rfl (Nat.le_refl _) rfl)

theorem becomes_post (s : Stage) (m : Message) : s.Becomes (s.post m) :=
  becomes_of_step (fires_post s m).register fun χ hs hr => ⟨_, .post m, rfl, by rw [← hs]; rfl, hr⟩

theorem becomes_startSender (s : Stage) : s.Becomes s.startSender.2 :=
  becomes_of_step (fun _ => rfl) fun χ hs hr =>
    ⟨_, .spawn (a := .sender none .fresh) trivial, rfl, by rw [← hs]; rfl, hr⟩

theorem becomes_signalStop (s : Stage) : s.Becomes s.signalStop :=
  becomes_of_step (fun _ => rfl) fun χ hs hr => ⟨_, .stop, rfl, by rw [← hs]; rfl, hr⟩

theorem becomes_startTicker (s : Stage) : s.Becomes s.startTicker := by
  refine becomes_of_step (fun _ => ?_) fun χ hs hr =>
    ⟨_, .startTicker, rfl, by rw [← hs]; rfl, hr⟩
  rw [startTicker]
  split <;> rfl

theorem becomes_stopTicker (s : Stage) : s.Becomes s.stopTicker := by
  refine becomes_of_step (fun _ => ?_) fun χ hs hr =>
    ⟨_, .stopTicker, rfl, by rw [← hs]; rfl, hr⟩
  rw [(Chronicle.bot_stopTicker s).1]

theorem becomes_mint (s : Stage) : s.Becomes s.mint.2 :=
  becomes_of_step (fun _ => rfl) fun χ hs hr => ⟨_, .mint, rfl, by rw [← hs]; rfl, hr⟩

theorem becomes_joinTracked (company : Company) (s : Stage) :
    s.Becomes (s.joinTracked company).2 := by
  have hdrained : s.Becomes s.drainTracked.2 := becomes_of_eq rfl rfl (Nat.le_refl _) rfl
  exact hdrained.trans (becomes_await company (fun s' => s.tracked.all fun id => !s'.isLive id)
    (some (s.now + s.bot.config.shutdownTimeout)) _)

theorem becomes_windUp (company : Company) (s : Stage) : s.Becomes (s.windUp company).2 :=
  ((becomes_stopTicker s).trans (becomes_tell s.stopTicker .shouldSave [])).trans
    (becomes_joinTracked company _)

theorem becomes_shutdown (company : Company) (s : Stage) : s.Becomes (s.shutdown company) :=
  (becomes_windUp company s).trans (becomes_signalStop _)

/-- What one can do with a bot but for giving it messages and changing its commands. -/
inductive Goes (company : Company) (s : Stage) : Stage → Prop where
  | post (m : Message) : Goes company s (s.post m)
  | startSender : Goes company s s.startSender.2
  | signalStop : Goes company s s.signalStop
  | startTicker : Goes company s s.startTicker
  | stopTicker : Goes company s s.stopTicker
  | mint : Goes company s s.mint.2
  | fire {event : String} {payload : Payload} {ids : List Nat} {s' : Stage}
      (hf : s.fire event payload = .ok (ids, s')) : Goes company s s'
  | tell (event : CoreEvent) (payload : Payload) : Goes company s (s.tell event payload).2
  | settle : Goes company s (s.settle company.program)
  | advance (span : Nat) : Goes company s (s.advance company.program span)
  | await (isOver : Stage → Bool) (deadline : Option Nat) :
      Goes company s (s.await company.program isOver deadline).2
  | shutdown : Goes company s (s.shutdown company)

theorem Goes.becomes (h : s.Goes company s') : s.Becomes s' := by
  cases h with
  | post m => exact becomes_post s m
  | startSender => exact becomes_startSender s
  | signalStop => exact becomes_signalStop s
  | startTicker => exact becomes_startTicker s
  | stopTicker => exact becomes_stopTicker s
  | mint => exact becomes_mint s
  | fire hf => exact becomes_fire hf
  | tell event payload => exact becomes_tell s event payload
  | settle => exact becomes_settle company s
  | advance span => exact becomes_advance company span s
  | await isOver deadline => exact becomes_await company isOver deadline s
  | shutdown => exact becomes_shutdown company s

/-- Where a message is not accepted, nothing happens. -/
theorem receive_eq {m : Message} (h : (s.receive m).1 ≠ .ok true) : (s.receive m).2 = s := by
  rw [receive] at h ⊢
  split
  · rfl
  · rename_i hm
    rw [if_neg hm] at h
    split
    · rfl
    · rename_i hn
      rw [if_neg hn, tell] at h
      rw [tell]
      cases hf : s.fireTracked .onMessage (Payload.ofMessage m.named) with
      | error e => rfl
      | ok s' =>
          rw [hf] at h
          exact absurd rfl h

/-- The stages of a bot in use, with the messages that it has accepted.  At any time `Q` holds of
those who listen for messages. -/
inductive Used (company : Company) (Q : Listing Handler → Prop) : List Message → Stage → Prop where
  | start {config : Config} {b : Bot} (hb : Bot.ofConfig config = .ok b)
      (hq : Q (b.host.register CoreEvent.onMessage.name)) : Used company Q [] (.ofBot b)
  | go {ms : List Message} {s s' : Stage} (h : Used company Q ms s) (hg : s.Goes company s') :
      Used company Q ms s'
  | accept {ms : List Message} {s s' : Stage} {m : Message} (h : Used company Q ms s)
      (hr : s.receive m = (.ok true, s'))
      (hm : ∀ a, m.address = .internal a → a.serial < s.bot.minted) :
      Used company Q (ms ++ [m]) s'
  | edit {ms : List Message} {s : Stage} {e : BotEdit} (h : Used company Q ms s)
      (he : e.IsUnrelated) (hq : Q ((s.bot.edit e).2.host.register CoreEvent.onMessage.name)) :
      Used company Q ms (s.modify fun b => (b.edit e).2)

end Stage

namespace Chronicle

variable {χ χ' : Chronicle} {Q : Listing Handler → Prop}

/-- `Q` holds of those who listen for messages. -/
abbrev Listens (Q : Listing Handler → Prop) (χ : Chronicle) : Prop :=
  Q (χ.stage.bot.host.register CoreEvent.onMessage.name)

theorem Run.moves (h : Run (Listens Q) χ) (hs : Relation.ReflTransGen Moves χ χ') :
    Run (Listens Q) χ' ∧ χ'.accepted = χ.accepted := by
  induction hs with
  | refl => exact ⟨h, rfl⟩
  | tail _ hm ih =>
      refine ⟨ih.1.step hm.step ?_, hm.accepted.trans ih.2⟩
      rw [Listens, hm.onMessage]
      exact ih.1.holds

end Chronicle

/-- **Whatever a bot does is a chronicle**, with the messages that it has accepted. -/
theorem Stage.Used.exists_run {company : Company} {Q : Listing Handler → Prop} {ms : List Message}
    {s : Stage} (h : Stage.Used company Q ms s) :
    ∃ χ, Chronicle.Run (Chronicle.Listens Q) χ ∧ χ.stage = s ∧ χ.running = [] ∧
      χ.accepted.map (·.message) = ms := by
  induction h with
  | start hb hq => exact ⟨_, .start hb hq, rfl, rfl, rfl⟩
  | go _ hg ih =>
      obtain ⟨χ, hrun, hs, hr, rfl⟩ := ih
      obtain ⟨χ', hm, -, hs', hr'⟩ := hg.becomes χ hrun.orderly hs hr
      obtain ⟨hrun', ha⟩ := hrun.moves hm
      exact ⟨χ', hrun', hs', hr', by rw [ha]⟩
  | @accept ms s s' m _ hr hm ih =>
      obtain ⟨χ, hrun, rfl, hrunning, rfl⟩ := ih
      obtain ⟨-, ls, -, hq⟩ := Chronicle.receive_ok hr
      refine ⟨_, hrun.step (.receive hr hm) ?_, rfl, hrunning, List.map_append⟩
      change Q (s'.bot.host.register CoreEvent.onMessage.name)
      rw [hq.toFires.register hrun.orderly.consistent.separated]
      exact hrun.holds
  | edit _ he hq ih =>
      obtain ⟨χ, hrun, rfl, hrunning, hms⟩ := ih
      exact ⟨_, hrun.step (.edit he) hq, rfl, hrunning, hms⟩

/-! ### A bot on a console -/

/-- Only commands listen for messages. -/
def Listing.IsCommandsOnly (l : Listing Handler) : Prop :=
  ∀ c ∈ l.callbacks, c.isCommand = true

/-- The bot's own commands can be added at any time. -/
theorem Stage.Used.edit_own {company : Company} {ms : List Message} {s : Stage}
    (h : Stage.Used company Listing.IsCommandsOnly ms s) {e : BotEdit} (he : ∀ k, e ≠ .host k) :
    Stage.Used company Listing.IsCommandsOnly ms (s.modify fun b => (b.edit e).2) := by
  obtain ⟨χ, hrun, rfl, -, -⟩ := h.exists_run
  have hu : e.IsUnrelated := by
    cases e with
    | host k => exact absurd rfl (he k)
    | _ => trivial
  exact .edit h hu (hrun.orderly.consistent.isCommand_of_edit he hrun.holds)

theorem Stage.Used.addCommands {company : Company} {ms : List Message} {s : Stage}
    (h : Stage.Used company Listing.IsCommandsOnly ms s)
    {commands : List (String × String × Command)} {answer : Except BotError Unit} {b : Bot}
    (ha : s.bot.addCommands commands = (answer, b)) :
    Stage.Used company Listing.IsCommandsOnly ms (s.modify fun _ => b) := by
  induction commands generalizing s with
  | nil =>
      cases ha
      exact h
  | cons c rest ih =>
      obtain ⟨name, description, command⟩ := c
      have hadd := h.edit_own (e := .add name description command) (by simp)
      rw [Bot.addCommands] at ha
      cases hc : s.bot.addCommand name description command with
      | mk added b' =>
          have hb : (s.bot.edit (.add name description command)).2 = b' := by rw [Bot.edit, hc]
          have hadd : Stage.Used company Listing.IsCommandsOnly ms (s.modify fun _ => b') := by
            rw [← hb]
            exact hadd
          rw [hc] at ha
          cases added with
          | error e =>
              cases ha
              exact hadd
          | ok done =>
              exact ih (s := s.modify fun _ => b') hadd ha

namespace Console

/-- A bot on a console, after some time. -/
inductive Reached (file : Option (Option String)) : Console → Prop where
  | start {c : Console} (h : Console.start file = .ok c) : Reached file c
  | hear {c : Console} (h : Reached file c) (line : String) : Reached file (c.hear line)
  | advance {c : Console} (h : Reached file c) (span : Nat) : Reached file (c.advance span)
  | take {c : Console} (h : Reached file c) (count : Nat) : Reached file (c.take count).2
  | finish {c : Console} (h : Reached file c) : Reached file c.finish

theorem Reached.type {file : Option (Option String)} {c : Console} (h : Reached file c)
    (text : String) : Reached file (c.type text) := by
  rw [Console.type]
  induction Text.lines text generalizing c with
  | nil => exact h
  | cons line lines ih => exact ih (h.hear line)

/-- What comes with every bot is added and announced. -/
theorem used_loadPlugins {config : Config} {b : Bot} (hb : Bot.ofConfig config = .ok b)
    {answer : Except BotError Unit} {s : Stage}
    (h : (Stage.ofBot b).loadPlugins = (answer, s)) :
    Stage.Used company Listing.IsCommandsOnly [] s := by
  have hbare : Listing.IsCommandsOnly (b.host.register CoreEvent.onMessage.name) := by
    obtain ⟨host, rfl, -, hl⟩ := Bot.ofConfig_ok hb
    intro c hc
    rw [hl] at hc
    cases hc
  have hu : Stage.Used company Listing.IsCommandsOnly [] (.ofBot b) := .start hb hbare
  rw [Stage.loadPlugins] at h
  cases ha : (Stage.ofBot b).bot.addCommands Bot.defaultCommands with
  | mk added b' =>
      have hadded := hu.addCommands ha
      rw [ha] at h
      cases added with
      | error e =>
          cases h
          exact hadded
      | ok done =>
          have hs := congrArg Prod.snd h
          dsimp only at hs
          rw [← hs]
          exact hadded.go (.tell .onPluginsLoaded [])

theorem used_start {file : Option (Option String)} {c : Console} (h : Console.start file = .ok c) :
    Stage.Used company Listing.IsCommandsOnly [] c.stage := by
  rw [Console.start] at h
  cases hc : (file.elim (.ok {}) Config.ofFile : Except Error Config) with
  | error e => rw [hc] at h; cases h
  | ok config =>
      rw [hc] at h
      cases hb : Bot.ofConfig config with
      | error e => simp only [bind, Except.bind, hb, Except.mapError] at h; cases h
      | ok b =>
          simp only [bind, Except.bind, hb, Except.mapError] at h
          cases hl : (Stage.ofBot b).loadPlugins with
          | mk answer s =>
              have hu := used_loadPlugins hb hl
              rw [hl] at h
              cases answer with
              | error e => cases h
              | ok done =>
                  cases h
                  exact ((hu.go .startSender).go .startTicker).go .settle

theorem Reached.used {file : Option (Option String)} {c : Console} (h : Reached file c) :
    ∃ ms, Stage.Used company Listing.IsCommandsOnly ms c.stage := by
  induction h with
  | start h => exact ⟨[], used_start h⟩
  | @hear c h line ih =>
      obtain ⟨ms, hu⟩ := ih
      have hm : ∀ a, (messageOf line).address = .internal a → a.serial < c.stage.bot.minted := by
        rintro a ⟨⟩
      by_cases hr : (c.stage.receive (messageOf line)).1 = .ok true
      · exact ⟨_, (hu.accept (Prod.ext hr rfl) hm).go .settle⟩
      · have hs := Stage.receive_eq hr
        refine ⟨ms, Stage.Used.go ?_ .settle⟩
        change Stage.Used _ _ _ (c.stage.receive (messageOf line)).2
        rw [hs]
        exact hu
  | advance h span ih =>
      obtain ⟨ms, hu⟩ := ih
      exact ⟨ms, hu.go (.advance span)⟩
  | take h count ih =>
      obtain ⟨ms, hu⟩ := ih
      exact ⟨ms, hu.go (.await _ _)⟩
  | finish h ih =>
      obtain ⟨ms, hu⟩ := ih
      exact ⟨ms, (hu.go .shutdown).go .settle⟩

/-- **The program is a chronicle in which only commands listen for messages.** -/
theorem Reached.exists_run {file : Option (Option String)} {c : Console} (h : Reached file c) :
    ∃ χ, Chronicle.Run Chronicle.CommandsOnly χ ∧ χ.stage = c.stage ∧ χ.running = [] := by
  obtain ⟨ms, hu⟩ := h.used
  obtain ⟨χ, hrun, hs, hr, -⟩ := hu.exists_run
  exact ⟨χ, hrun, hs, hr⟩

end Console

end ChatBot
