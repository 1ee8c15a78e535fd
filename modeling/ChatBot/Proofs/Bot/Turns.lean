import ChatBot.Proofs.Bot.Effects
import ChatBot.Proofs.Evaluation.Turns

/-!
# The turns of tasks are made of steps

A chronicle takes smaller steps than the bot, which lets a task go on until it ends or has to wait.
Every turn of every task is a sequence of the steps that `Errand.Proceeds` allows.

* `Errand.leads_work`: a command at work has its turn.
* `Errand.leads_serve`: so does a sender, with any number of messages.
* `Errand.leads_poll`: so does whatever else there is.
-/

namespace ChatBot

/-- A task goes on while nothing else happens.  It may have ended then. -/
inductive Errand.Leads : Stage → Errand → Stage → Option Errand → Prop where
  | refl (s : Stage) (e : Errand) : Leads s e s (some e)
  | ends {s : Stage} {e : Errand} {o : Stride} (h : e.Proceeds s o) (hn : o.next = none) :
      Leads s e o.stage none
  | more {s s' : Stage} {e e' : Errand} {o : Stride} {next : Option Errand} (h : e.Proceeds s o)
      (hn : o.next = some e') (t : Leads o.stage e' s' next) : Leads s e s' next

namespace Errand

variable {s s' s'' : Stage} {e e' : Errand} {next : Option Errand} {o : Stride}

theorem Leads.one (h : e.Proceeds s o) : Leads s e o.stage o.next := by
  cases hn : o.next with
  | none => exact .ends h hn
  | some e' => exact .more h hn (.refl _ _)

theorem Leads.trans (h : Leads s e s' (some e')) (h' : Leads s' e' s'' next) :
    Leads s e s'' next := by
  generalize hn : some e' = n at h
  induction h with
  | refl =>
      cases hn
      exact h'
  | ends => cases hn
  | more h hnext _ ih => exact .more h hnext (ih h' hn)

/-! ### Commands at work -/

section Work

variable {recipient : Recipient} {session : Session}

/-- An evaluation goes on. -/
theorem leads_of_phase {p p' : Phase} (h : Phase.Leads session s p s' p') :
    Leads s (.evaluation recipient session p) s' (some (.evaluation recipient session p')) := by
  induction h with
  | refl => exact .refl _ _
  | tail _ hm ih => exact ih.trans (.one (.evaluate hm))

theorem evaluation_of_job? {p : Phase} {job : Job} (h : p.job? session = some job) :
    Errand.evaluation recipient session p = .ofActivity (.job recipient job) := by
  cases p with
  | talking | waiting =>
      cases h
      rfl
  | subscribed | leaving | gone => cases h

/-- What an evaluation shows is where its task stands. -/
theorem leads_of_shows {p : Phase} {turn : Turn} (h : p.Shows session turn) :
    Leads s (.evaluation recipient session p) s (some (.ofTurn recipient turn)) := by
  cases turn with
  | waits job =>
      rw [evaluation_of_job? h]
      exact .refl _ _
  | ends result =>
      match result, h with
      | .ok text, h =>
          obtain rfl : p = .talking (.done text) := h
          exact .one .conclude
      | .error (.eval e), h =>
          obtain rfl : p = .talking (.fail e) := h
          exact .one .fail

theorem leads_runEval (hr : s.bot.Filed) (m : Message) :
    Leads s (.activity (.job recipient (.fresh .eval m))) (s.runEval m).2
      (some (.ofTurn recipient (s.runEval m).1)) := by
  rw [Stage.runEval]
  cases hm : Eval.request m.text with
  | error e => exact .one (.run (by simp only [Stage.begin?, hm]))
  | ok request =>
      cases request with
      | «show» text => exact .one (.run (by simp only [Stage.begin?, hm]))
      | evaluate text seconds =>
          refine .more (.begin hm (deadlineAfter s.now
            (seconds.elim s.bot.config.eval.timeLimit (· * 1000)))) rfl ?_
          have hf : (Stage.openSession s m (deadlineAfter s.now
              (seconds.elim s.bot.config.eval.timeLimit (· * 1000)))).2.bot.Filed :=
            hr.mono (Nat.le_succ _) rfl rfl
          obtain ⟨p, hl, hp⟩ := Phase.exists_leads_converse hf.reply?_minted
            (s.bot.config.language.evaluate text)
          exact (leads_of_phase hl).trans (leads_of_shows hp)

/-- One turn of a command at work. -/
theorem leads_pollJob (hr : s.bot.Filed) (job : Job) :
    Leads s (.ofActivity (.job recipient job)) (s.pollJob job).2
      (some (.ofTurn recipient (s.pollJob job).1)) := by
  cases job with
  | fresh command m =>
      cases command with
      | eval => exact leads_runEval hr m
      | echo | help | custom start => exact .one (.run rfl)
  | paused time course =>
      rw [Stage.pollJob]
      split
      · exact .one .resume
      · exact .refl _ _
  | talking session d =>
      obtain ⟨p, hl, hp⟩ := Phase.exists_leads_converse hr.reply?_minted d
      exact (leads_of_phase hl).trans (leads_of_shows hp)
  | asking session listener command resume =>
      have hj : (Phase.waiting listener command resume).job? session =
          some (.asking session listener command resume) := rfl
      obtain ⟨p, hl, hp⟩ := Phase.exists_leads_pollJob hr.reply?_minted hj
      exact (leads_of_phase hl).trans (leads_of_shows hp)

/-- A command at work has its turn, and reports its result if there is one. -/
theorem leads_work (hr : s.bot.Filed) (job : Job) :
    Leads s (.ofActivity (.job recipient job)) (s.work recipient job).2
      ((s.work recipient job).1.map .ofActivity) := by
  have h : Leads s (.ofActivity (.job recipient job)) _ _ := leads_pollJob hr job
  rw [Stage.work]
  cases hturn : s.pollJob job with
  | mk turn s₁ =>
      rw [hturn] at h
      cases turn with
      | waits job => exact h
      | ends result => exact h.trans (.ends .report rfl)

end Work

/-! ### Senders -/

section Sender

variable {number : Option Nat} {since : Nat} {m : Message}

theorem exists_announces (s : Stage) (m : Message) : ∃ deed, s.Announces m (s.announce m) deed := by
  rw [Stage.announce]
  cases hf : s.fireTracked .onMessageSent (Payload.ofMessage m) with
  | error e => exact ⟨_, .unheard hf⟩
  | ok s' => exact ⟨_, .heard hf⟩

theorem outbox_announce (s : Stage) (m : Message) :
    (s.announce m).bot.outbox = s.bot.outbox := by
  obtain ⟨deed, ha⟩ := exists_announces s m
  obtain ⟨ls, hq⟩ := Stage.quiet_announces ha
  exact hq.outbox

/-- The transport is done with a message. -/
theorem leads_arrive (s : Stage) (number : Option Nat) (since : Nat) (h : Handover) (time : Nat) :
    Leads s (.activity (.sender number (.sending since h time))) (s.arrive h)
        (some (.activity (.sender number (.listening since)))) ∧
      (s.arrive h).bot.outbox = s.bot.outbox := by
  rw [Stage.arrive]
  by_cases ht : h.taken = true
  · obtain ⟨deed, ha⟩ := exists_announces s h.message
    simp only [ht, if_true]
    exact ⟨.one (.send (.arrive ht ha)), outbox_announce s _⟩
  · simp only [ht]
    exact ⟨.one (.send (.lose (Bool.eq_false_iff.mpr ht))), rfl⟩

/-- A sender hands on what is queued. -/
theorem leads_serve (company : Company) (queue : List Message)
    (hq : s.bot.outbox.queue = queue) :
    Leads s (.activity (.sender number (.listening since)))
      (Stage.serve company number since queue s).2
      ((Stage.serve company number since queue s).1.map fun state =>
        .activity (.sender number state)) := by
  induction queue generalizing s with
  | nil =>
      rw [Stage.serve]
      by_cases hs : s.isStopped since = true
      · rw [if_pos hs]
        exact .ends (.send (.stop hs)) rfl
      · rw [if_neg hs]
        exact .refl _ _
  | cons m rest ih =>
      rw [Stage.serve]
      split
      · rename_i hs
        exact .ends (.send (.stop (Bool.and_eq_true _ _ ▸ hs).1)) rfl
      · -- the first message is out, and what is left is the rest
        rw [Stage.deliver]
        by_cases hu : m.address.isUnset = true
        · simp only [hu, if_true]
          exact .more (.send (.discard hq hu)) rfl (ih rfl)
        · simp only [hu]
          by_cases hi : m.isInternal = true
          · simp only [hi, if_true]
            obtain ⟨deed, ha⟩ := exists_announces (s.withQueue rest) m
            refine .more (.send (.announce hq hi ha)) rfl (ih ?_)
            rw [outbox_announce]
            rfl
          · simp only [hi]
            rw [Bool.not_eq_true] at hu hi
            by_cases hspan : (company.transport m.outward).span = 0
            · simp only [hspan]
              refine .more (.send (.hand hq hu hi (!(company.transport m.outward).refused) s.now))
                rfl ?_
              obtain ⟨hl, ho⟩ := leads_arrive
                ((s.withQueue rest).hand ⟨m.outward, !(company.transport m.outward).refused⟩)
                number since ⟨m.outward, !(company.transport m.outward).refused⟩ s.now
              refine hl.trans (ih ?_)
              rw [ho]
              rfl
            · simp only [hspan]
              exact .one (.send (.hand hq hu hi (!(company.transport m.outward).refused) _))

theorem leads_pollSender (company : Company) (number : Option Nat) (state : SenderState) :
    Leads s (.activity (.sender number state)) (s.pollSender company number state).2
      ((s.pollSender company number state).1.map fun state =>
        .activity (.sender number state)) := by
  cases state with
  | fresh =>
      rw [Stage.pollSender]
      split
      · rename_i hr
        exact .more (.send (.take hr)) rfl (leads_serve company _ rfl)
      · rename_i hr
        exact .ends (.send (.refuse hr)) rfl
  | listening since => exact leads_serve company _ rfl
  | sending since h time =>
      rw [Stage.pollSender]
      split
      · exact (leads_arrive s number since h time).1.trans (leads_serve company _ rfl)
      · exact .refl _ _

end Sender

/-! ### All tasks -/

theorem ofActivity_of_isBystander {a : Activity} (ha : a.IsBystander) :
    Errand.ofActivity a = .activity a := by
  cases a with
  | job => exact ha.elim
  | _ => rfl

theorem leads_attend {a : Activity} (ha : a.IsBystander) (company : Company) :
    Leads s (.ofActivity a) (Stage.poll company a s).2
      ((Stage.poll company a s).1.map .ofActivity) := by
  have hnext : (Stage.poll company a s).1.map Errand.ofActivity =
      (Stage.poll company a s).1.map .activity :=
    Option.map_congr fun a' ha' =>
      ofActivity_of_isBystander ((Stage.quiet_poll ha company s).2 a' ha')
  rw [ofActivity_of_isBystander ha, hnext]
  exact .one (.attend ha company)

/-- **Every turn is a sequence of steps.** -/
theorem leads_poll (hr : s.bot.Filed) (company : Company) (a : Activity) :
    Leads s (.ofActivity a) (Stage.poll company a s).2
      ((Stage.poll company a s).1.map .ofActivity) := by
  cases a with
  | launched handler payload =>
      cases handler with
      | command serial =>
          rw [Stage.poll, Stage.launch]
          cases hi : s.bot.installation? serial with
          | none => exact .ends (.stray (.inl hi)) rfl
          | some i =>
              cases hm : Payload.message? payload with
              | none => exact .ends (.stray (.inr hm)) rfl
              | some m => exact .more (.launch hi hm) rfl (leads_work hr (.fresh i.command m))
      | inbox | guest =>
          refine leads_attend ?_ company
          trivial
  | script | ticker =>
      refine leads_attend ?_ company
      trivial
  | job recipient job => exact leads_work hr job
  | sender number state =>
      have h := leads_pollSender (s := s) company number state
      rw [Stage.poll]
      dsimp only
      rw [Option.map_map]
      exact h

end Errand

end ChatBot
