import ChatBot.Proofs.Evaluation.Correlation

/-!
# The turns of the bot are steps

The steps of an ensemble are smaller than the turns that a bot gives to its tasks.  Every such turn
that has to do with round trips is a sequence of steps, so what holds of all runs of ensembles holds
of what the bot runs.

* `Ensemble.exists_steps_pollJob`, `Ensemble.exists_steps_dropJob`: an evaluation has its turn, or
  is dropped.
* `Ensemble.exists_steps_runEval`: the eval command starts one.
* `Ensemble.exists_steps_fire`, `Ensemble.step_launch`: a payload is fired, and the listener of an
  inbox is polled.
-/

namespace ChatBot

/-! ### One evaluation -/

theorem Stage.reply?_closeInbox {s : Stage} {n : Nat} (hr : s.reply? n = none) (listener : Nat)
    (a : CorrelationId) : (s.closeInbox listener a).reply? n = none := by
  rw [reply?, List.lookup_eq_none_iff] at hr ⊢
  exact fun p hp => hr p (List.mem_of_mem_filter hp)

namespace Phase

variable {session : Session} {s : Stage}

/-- The job that an evaluation is for the bot, between its turns. -/
def job? (session : Session) : Phase → Option Job
  | .talking d => some (.talking session d)
  | .waiting listener command resume => some (.asking session listener command resume)
  | .subscribed _ _ _ | .leaving _ _ | .gone => none

/-- Where an evaluation stands after a turn. -/
def Shows (session : Session) (p : Phase) : Turn → Prop
  | .waits job => p.job? session = some job
  | .ends (.ok text) => p = .talking (.done text)
  | .ends (.error (.eval error)) => p = .talking (.fail error)
  | .ends (.error _) => False

/-- An evaluation goes on while nothing else happens. -/
inductive Leads (session : Session) (s : Stage) (p : Phase) : Stage → Phase → Prop where
  | refl : Leads session s p s p
  | tail {s' : Stage} {p' : Phase} {m : Move} (h : Leads session s p s' p')
      (hm : p'.Proceeds s' session m) : Leads session s p m.stage m.phase

theorem Leads.trans {s' s'' : Stage} {p p' p'' : Phase} (h : Leads session s p s' p')
    (h' : Leads session s' p' s'' p'') : Leads session s p s'' p'' := by
  induction h' with
  | refl => exact h
  | tail _ hm ih => exact ih.tail hm

/-- An evaluation goes on until it has to wait or is over, where no reply is kept under a number
that is still to be given out. -/
theorem exists_leads_converse (hr : s.reply? s.bot.minted = none) (d : Dialogue String) :
    ∃ p, Leads session s (.talking d) (s.converse session d).2 p ∧
      p.Shows session (s.converse session d).1 := by
  cases d with
  | done result => exact ⟨_, .refl, rfl⟩
  | fail error => exact ⟨_, .refl, rfl⟩
  | ask command resume =>
      rw [Stage.converse, Stage.ask]
      cases ho : s.openInbox session.address with
      | error error => exact ⟨_, Leads.refl.tail (.refuse ho), rfl⟩
      | ok opened =>
          obtain ⟨listener, s₁⟩ := opened
          have h₁ : Leads session s (.talking (.ask command resume)) s₁
              (.subscribed listener command resume) := Leads.refl.tail (.subscribe ho)
          cases hf : s₁.fireTracked .onMessage (Payload.ofMessage (session.request command)) with
          | error error =>
              simp only [hf]
              exact ⟨_, (h₁.tail (.lose hf)).tail .close, rfl⟩
          | ok s₂ =>
              simp only [hf]
              have h₂ := h₁.tail (.publish hf)
              by_cases hlate : session.deadline ≤ s₂.now
              -- the deadline has passed, and nothing can be in the inbox yet
              · have hr₂ : s₂.reply? listener = none := by
                  obtain ⟨rfl, host, -, hs⟩ := Stage.openInbox_ok ho
                  rw [Stage.reply?, Stage.bot_fireTracked hf, hs]
                  exact hr
                simp only [hlate, if_true]
                exact ⟨_, (h₂.tail (.giveUp hr₂ hlate)).tail .close, rfl⟩
              · simp only [hlate, if_false]
                exact ⟨_, h₂, rfl⟩

/-- One turn of an evaluation. -/
theorem exists_leads_pollJob (hr : s.reply? s.bot.minted = none) {p : Phase} {job : Job}
    (hj : p.job? session = some job) :
    ∃ p', Leads session s p (s.pollJob job).2 p' ∧ p'.Shows session (s.pollJob job).1 := by
  cases p with
  | talking d =>
      cases hj
      exact exists_leads_converse hr d
  | waiting listener command resume =>
      cases hj
      rw [Stage.pollJob]
      cases hreply : s.reply? listener with
      | some reply =>
          have h : Leads session s (.waiting listener command resume)
              (s.closeInbox listener session.address)
              (.talking (.afterReply command resume reply)) :=
            (Leads.refl.tail (.receive hreply)).tail .close
          cases ht : replyText command reply with
          | error error =>
              simp only [ht]
              refine ⟨_, h, ?_⟩
              simp only [Shows, Dialogue.afterReply, ht]
          | ok said =>
              simp only [ht]
              rw [Dialogue.afterReply, ht] at h
              obtain ⟨p', h', hp'⟩ := exists_leads_converse
                (Stage.reply?_closeInbox hr listener session.address) (resume said)
              exact ⟨p', h.trans h', hp'⟩
      | none =>
          by_cases hlate : session.deadline ≤ s.now
          · simp only [hlate, if_true]
            exact ⟨_, (Leads.refl.tail (.giveUp hreply hlate)).tail .close, rfl⟩
          · simp only [hlate, if_false]
            exact ⟨_, .refl, rfl⟩
  | subscribed | leaving | gone => cases hj

end Phase

/-! ### Ensembles -/

namespace Ensemble

variable {σ : Ensemble} {a : CorrelationId} {e : Evaluation}

theorem exists_step_proceed {m : Move} (he : σ.evaluations a = some e)
    (hm : e.phase.Proceeds σ.stage e.session m) :
    ∃ σ', Step σ σ' ∧ σ'.stage = m.stage ∧ σ'.evaluations a = some { e with phase := m.phase } :=
  ⟨_, .proceed he hm, rfl, evaluations_move_self _ _ _ _⟩

/-- There is no reply under a number that is still to be given out. -/
theorem Sound.reply?_minted (h : σ.Sound) : σ.stage.reply? σ.stage.bot.minted = none := by
  cases hr : σ.stage.reply? σ.stage.bot.minted with
  | none => rfl
  | some reply =>
      obtain ⟨fire, ht⟩ := h.sourced.replies _ _ hr
      obtain ⟨b, hb, -⟩ := h.sourced.taken _ _ _ ht
      exact absurd (h.numbered.opened b _ hb).1 (Nat.lt_irrefl _)

/-- What one evaluation does while nothing else happens is what an ensemble does. -/
theorem exists_steps_of_leads (he : σ.evaluations a = some e) {s : Stage} {p : Phase}
    (h : Phase.Leads e.session σ.stage e.phase s p) :
    ∃ σ', Steps σ σ' ∧ σ'.stage = s ∧ σ'.evaluations a = some { e with phase := p } := by
  induction h with
  | refl => exact ⟨σ, .refl, rfl, he⟩
  | tail _ hm ih =>
      obtain ⟨σ₁, h₁, hs₁, he₁⟩ := ih
      obtain ⟨σ₂, h₂, hs₂, he₂⟩ := exists_step_proceed he₁ (hs₁ ▸ hm)
      exact ⟨σ₂, h₁.tail h₂, hs₂, he₂⟩

/-- One turn of an evaluation. -/
theorem exists_steps_pollJob (h : σ.Sound) {job : Job} (he : σ.evaluations a = some e)
    (hj : e.phase.job? e.session = some job) :
    ∃ σ' p, Steps σ σ' ∧ σ'.stage = (σ.stage.pollJob job).2 ∧
      σ'.evaluations a = some { e with phase := p } ∧
      p.Shows e.session (σ.stage.pollJob job).1 := by
  obtain ⟨p, hl, hp⟩ := Phase.exists_leads_pollJob h.reply?_minted hj
  obtain ⟨σ', hs, hstage, he'⟩ := exists_steps_of_leads he hl
  exact ⟨σ', p, hs, hstage, he', hp⟩

/-- An evaluation is dropped. -/
theorem exists_steps_dropJob {job : Job} (he : σ.evaluations a = some e)
    (hj : e.phase.job? e.session = some job) :
    ∃ σ' e', Steps σ σ' ∧ σ'.stage = σ.stage.dropJob job ∧ σ'.evaluations a = some e' ∧
      e'.phase = .gone := by
  obtain ⟨session, language, text, phase⟩ := e
  cases phase with
  | talking d =>
      cases hj
      exact ⟨_, _, .single (.drop he (.talking d)), rfl, evaluations_move_self _ _ _ _, rfl⟩
  | waiting listener command resume =>
      cases hj
      have h₁ := Step.drop he (.waiting listener command resume)
      have he₁ := evaluations_move_self σ a
        ⟨session, language, text, .waiting listener command resume⟩
        ⟨σ.stage, .leaving listener none, []⟩
      obtain ⟨σ₂, h₂, hs₂, he₂⟩ := exists_step_proceed he₁ .close
      exact ⟨σ₂, _, (Relation.ReflTransGen.single h₁).tail h₂, hs₂, he₂, rfl⟩
  | subscribed | leaving | gone => cases hj

/-- The eval command evaluates a text. -/
theorem exists_steps_runEval (h : σ.Sound) {m : Message} {text : String} {seconds : Option Nat}
    (hm : Eval.request m.text = .ok (.evaluate text seconds)) :
    ∃ σ' e, Steps σ σ' ∧ σ'.stage = (σ.stage.runEval m).2 ∧
      σ'.evaluations ⟨evaluationOrigin, σ.stage.bot.minted⟩ = some e ∧
      e.phase.Shows e.session (σ.stage.runEval m).1 := by
  rw [Stage.runEval, hm]
  have h₁ : Step σ _ := .enroll m (deadlineAfter σ.stage.now
    (seconds.elim σ.stage.bot.config.eval.timeLimit (· * 1000))) σ.stage.bot.config.language text
  have he := evaluations_enroll_self σ m (deadlineAfter σ.stage.now
    (seconds.elim σ.stage.bot.config.eval.timeLimit (· * 1000))) σ.stage.bot.config.language text
  obtain ⟨p, hl, hp⟩ := Phase.exists_leads_converse (h.step h₁).reply?_minted _
  obtain ⟨σ₂, h₂, hs₂, he₂⟩ := exists_steps_of_leads he hl
  exact ⟨σ₂, _, (Relation.ReflTransGen.single h₁).trans h₂, hs₂, he₂, hp⟩

/-- The callbacks of a fire have their turns. -/
theorem exists_steps_dispatch {before after : List Dispatch} {d : Dispatch}
    (hd : σ.dispatches = before ++ d :: after) :
    ∃ σ', Steps σ σ' ∧ σ'.evaluations = σ.evaluations ∧
      σ'.stage = (σ.stage.spawnAll ((σ.stage.bot.conduct.dispatch d.payload d.rest ()).1.map
        fun l => .launched l.target l.payload)).2 := by
  obtain ⟨fire, payload, rest⟩ := d
  induction rest generalizing σ with
  | nil => exact ⟨σ, .refl, rfl, rfl⟩
  | cons c cs ih =>
      have h₁ := Step.consider hd rfl
      obtain ⟨σ₂, h₂, he₂, hs₂⟩ := ih (σ := { σ with
        stage := σ.stage.consider payload c
        dispatches := before ++ ⟨fire, payload, cs⟩ :: after
        source := Function.update σ.source σ.stage.spawned fire }) rfl
      refine ⟨σ₂, (Relation.ReflTransGen.single h₁).trans h₂, he₂, hs₂.trans ?_⟩
      have hb : (σ.stage.consider payload c).bot = σ.stage.bot := Stage.consider_state _ _
      dsimp only
      rw [hb, Conduct.dispatch, List.map_append]
      exact (Schedule.spawnAll_append _ _ _).symm

/-- A payload is fired. -/
theorem exists_steps_fire {event : String} {payload : Payload} {ids : List Nat} {s : Stage}
    (hf : σ.stage.fire event payload = .ok (ids, s)) :
    ∃ σ', Steps σ σ' ∧ σ'.evaluations = σ.evaluations ∧ σ'.stage = s := by
  rw [Stage.fire, Bot.launches, Conduct.fire] at hf
  cases hl : σ.stage.bot.host.listeners event payload with
  | error error =>
      rw [hl] at hf
      cases hf
  | ok callbacks =>
      rw [hl] at hf
      have hs := congrArg Prod.snd (Except.ok.inj hf)
      obtain ⟨σ₂, h₂, he₂, hs₂⟩ :=
        @exists_steps_dispatch (σ.launch event payload none callbacks) [] _ _ rfl
      exact ⟨σ₂, (Relation.ReflTransGen.single (.fire none hl)).trans h₂, he₂, hs₂.trans hs⟩

/-- The listener of an inbox is polled. -/
theorem step_launch (company : Company) {before after : List (Nat × Activity)} {id listener : Nat}
    {address : CorrelationId} {payload : Payload}
    (hr : σ.stage.ready = before ++ (id, .launched (.inbox listener address) payload) :: after) :
    ∃ σ', Step σ σ' ∧ σ'.stage = (Stage.launch { σ.stage with ready := before ++ after } company
      payload (.inbox listener address)).2 :=
  ⟨_, .deliver hr rfl, rfl⟩

end Ensemble

end ChatBot
