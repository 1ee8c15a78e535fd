import ChatBot.Proofs.Evaluation.Correlation
import ChatBot.Proofs.Evaluation.Plain

/-!
# Evaluations are runs of the plain interpreter

An evaluation among others, which gets its answers through inboxes and whatever comes between,
publishes the commands and comes to the result that `Plain.evaluate` has for the same answers.

* `Ensemble.Conforms` says when the surroundings answer an evaluation as given.
* `Phase.Follows` ties what an evaluation has still to do, and what it has published, to the outcome
  of the plain interpreter; every step keeps it.
* `Ensemble.evaluation_refines` puts it together, and adds that the evaluation never gets stuck and
  that what it has still to do gets less.
-/

namespace ChatBot

/-- The command that the evaluation at `a` published, with the round trip that it belongs to. -/
def Occurrence.command? (a : CorrelationId) : Occurrence → Option (Nat × String)
  | .published b listener command => if b = a then some (listener, command) else none
  | _ => none

/-- What the evaluation at `a` has published, the latest last. -/
def publishedBy (a : CorrelationId) (history : List Occurrence) : List (Nat × String) :=
  history.reverse.filterMap (Occurrence.command? a)

theorem filterMap_reverse_cons {β : Type} (f : Occurrence → Option β) (o : Occurrence)
    (history : List Occurrence) : (o :: history).reverse.filterMap f =
      history.reverse.filterMap f ++ (f o).toList := by
  rw [List.reverse_cons, List.filterMap_append]
  cases h : f o <;> simp [h]

theorem publishedBy_cons (a : CorrelationId) (o : Occurrence) (history : List Occurrence) :
    publishedBy a (o :: history) = publishedBy a history ++ (o.command? a).toList :=
  filterMap_reverse_cons _ o history

theorem publishedBy_of_none {a : CorrelationId} {o : Occurrence} (ho : o.command? a = none)
    (history : List Occurrence) : publishedBy a (o :: history) = publishedBy a history := by
  rw [publishedBy_cons, ho]
  exact List.append_nil _

/-- What is remembered concerns the evaluation at `a`. -/
def Occurrence.Concerns (a : CorrelationId) : Occurrence → Prop
  | .published b _ _ | .returned b _ _ => b = a
  | .fired _ _ _ _ | .taken _ _ _ | .opened _ _ => False

/-- What is read off a history about one evaluation does not depend on the others. -/
theorem filterMap_append_of_unconcerned {β : Type} {a : CorrelationId} {f : Occurrence → Option β}
    (hf : ∀ o : Occurrence, ¬ o.Concerns a → f o = none) {news : List Occurrence}
    (hn : ∀ o ∈ news, ¬ o.Concerns a) (history : List Occurrence) :
    (news ++ history).reverse.filterMap f = history.reverse.filterMap f := by
  have hnone : news.reverse.filterMap f = [] :=
    List.filterMap_eq_nil_iff.mpr fun o ho => hf o (hn o (List.mem_reverse.mp ho))
  rw [List.reverse_append, List.filterMap_append, hnone, List.append_nil]

theorem filterMap_eq_nil_of_unconcerned {β : Type} {a : CorrelationId} {f : Occurrence → Option β}
    (hf : ∀ o : Occurrence, ¬ o.Concerns a → f o = none) {history : List Occurrence}
    (hn : ∀ o ∈ history, ¬ o.Concerns a) : history.reverse.filterMap f = [] := by
  have h := filterMap_append_of_unconcerned hf hn []
  rwa [List.append_nil] at h

theorem Occurrence.command?_of_not_concerns {a : CorrelationId} (o : Occurrence)
    (h : ¬ o.Concerns a) : o.command? a = none := by
  cases o with
  | published b listener command => exact if_neg h
  | fired | opened | taken | returned => rfl

/-- There is nothing left to do. -/
def Phase.IsOver : Phase → Prop
  | .talking (.done _) | .talking (.fail _) | .gone => True
  | _ => False

/-- A bound on the steps that are left, where `commands` are still to be published. -/
def Phase.stepsLeft (commands : Nat) : Phase → Nat
  | .talking (.ask _ _) => 4 * commands
  | .talking _ | .gone => 0
  | .subscribed _ _ _ => 4 * commands - 1
  | .waiting _ _ _ => 4 * commands + 2
  | .leaving _ _ => 4 * commands + 1

namespace Ensemble

/-- The commands that the evaluation at `a` has published, the latest last. -/
def commands (σ : Ensemble) (a : CorrelationId) : List String :=
  (publishedBy a σ.history).map (·.2)

/-- The surroundings answer the evaluation at `a` as given: the events are there that it needs,
whatever is sent to it answers one of its commands, and the n-th command gets the n-th answer.
This is in the inbox by the deadline, or it is late and does not come while the evaluation waits. -/
structure Conforms (answers : Nat → Answer) (a : CorrelationId) (σ : Ensemble) : Prop where
  events : ∀ e, σ.evaluations a = some e → ¬ e.phase.IsOver →
    ∀ event ∈ [CoreEvent.onMessage, CoreEvent.onMessageSent],
      σ.stage.bot.host.schema? event.name = some event.schema
  once : AnsweredOnce a σ.history
  reply : ∀ (n : Nat) listener command, (publishedBy a σ.history)[n]? = some (listener, command) →
    ∀ fire reply, Sent σ.history fire a reply (some listener) →
      answers n ≠ .late → answers n = .ofReply reply
  late : ∀ e listener command resume, σ.evaluations a = some e →
    e.phase = .waiting listener command resume →
    answers ((publishedBy a σ.history).length - 1) = .late → σ.stage.reply? listener = none
  timely : ∀ e listener command resume, σ.evaluations a = some e →
    e.phase = .waiting listener command resume →
    answers ((publishedBy a σ.history).length - 1) ≠ .late → e.session.deadline ≤ σ.stage.now →
    σ.stage.reply? listener ≠ none

/-- What the plain interpreter makes of an evaluation. -/
def outcome (answers : Nat → Answer) (e : Evaluation) : Except EvalError String × List String :=
  Plain.outcome (Plain.evaluate answers e.language e.text) []

/-- A bound on the steps that the evaluation at `a` has left. -/
def stepsLeft (answers : Nat → Answer) (σ : Ensemble) (a : CorrelationId) : Nat :=
  (σ.evaluations a).elim 0 fun e =>
    e.phase.stepsLeft ((outcome answers e).2.length - (σ.commands a).length)

end Ensemble

/-- What is left to do and what has been published make up the outcome. -/
def Phase.Follows (answers : Nat → Answer) (outcome : Except EvalError String × List String)
    (published : List (Nat × String)) : Phase → Prop
  | .talking d => Plain.outcome (d.perform answers) (published.map (·.2)) = outcome
  | .subscribed _ command resume =>
    Plain.outcome ((Dialogue.ask command resume).perform answers) (published.map (·.2)) = outcome
  | .waiting listener command resume => ∃ past, published = past ++ [(listener, command)] ∧
    Plain.outcome ((Dialogue.ask command resume).perform answers) (past.map (·.2)) = outcome
  | .leaving _ (some d) => Plain.outcome (d.perform answers) (published.map (·.2)) = outcome
  | .leaving _ none | .gone => published.map (·.2) <+: outcome.2

section
variable {answers : Nat → Answer} {outcome : Except EvalError String × List String}
  {published : List (Nat × String)} {p : Phase}

/-- The next command is published after all others, and before whatever follows. -/
theorem Dialogue.published_ask (answers : Nat → Answer) (command : String)
    (resume : String → Dialogue String) (past : List String) :
    past ++ [command] <+: (Plain.outcome ((ask command resume).perform answers) past).2 := by
  rw [perform, Plain.outcome_ask_bind]
  cases answers past.length with
  | text said => exact published_perform (resume said) _
  | error reason => exact List.prefix_rfl
  | late => exact List.prefix_rfl

/-- What has been published is the beginning of what is published in the end. -/
theorem Phase.Follows.commands (h : p.Follows answers outcome published) :
    published.map (·.2) <+: outcome.2 := by
  cases p with
  | talking d => exact h ▸ d.published_perform _
  | subscribed listener command resume => exact h ▸ Dialogue.published_perform _ _
  | waiting listener command resume =>
      obtain ⟨past, rfl, h⟩ := h
      rw [List.map_append]
      exact h ▸ Dialogue.published_ask answers command resume _
  | leaving listener next =>
      cases next with
      | none => exact h
      | some d => exact h ▸ d.published_perform _
  | gone => exact h

/-- A reply is what the interpreter gets as an answer. -/
theorem Plain.outcome_afterReply {command : String} {resume : String → Dialogue String}
    {reply : Message} {past : List String} (ha : answers past.length = .ofReply reply) :
    Plain.outcome ((Dialogue.afterReply command resume reply).perform answers)
        (past ++ [command]) =
      Plain.outcome ((Dialogue.ask command resume).perform answers) past := by
  rw [Dialogue.perform, Plain.outcome_ask_bind, ha, Dialogue.afterReply, replyText,
    Answer.ofReply]
  cases reply.body with
  | text said => rfl
  | error reason => rfl

/-- A command that is answered late is not answered for the interpreter. -/
theorem Plain.outcome_timeout {command : String} {resume : String → Dialogue String}
    {past : List String} (ha : answers past.length = .late) :
    Plain.outcome ((Dialogue.fail (.timeout command) : Dialogue String).perform answers)
        (past ++ [command]) =
      Plain.outcome ((Dialogue.ask command resume).perform answers) past := by
  rw [Dialogue.perform, Dialogue.perform, Plain.outcome_ask_bind, ha]
  rfl

end

namespace Ensemble

variable {σ σ' : Ensemble} {answers : Nat → Answer} {a : CorrelationId}

/-- What an evaluation does is of no concern for another one. -/
theorem not_concerns_of_proceeds {session : Session} {p : Phase} {m : Move}
    (hm : p.Proceeds σ.stage session m) (ha : session.address ≠ a) :
    ∀ o ∈ m.occurrences, ¬ o.Concerns a := by
  cases hm with
  | subscribe ho => simp [Occurrence.Concerns]
  | publish hf => simpa [Occurrence.Concerns] using ha
  | receive hr => simpa [Occurrence.Concerns] using ha
  | refuse | lose | giveUp | close => simp

/-- What a step means for one evaluation: nothing, or it begins, goes on or is dropped. -/
theorem Step.cases_at (h : σ.Attended) (hs : Step σ σ') (a : CorrelationId) :
    (σ'.evaluations a = σ.evaluations a ∧
      ∃ news, σ'.history = news ++ σ.history ∧ ∀ o ∈ news, ¬ o.Concerns a) ∨
    (∃ origin deadline language text, a = ⟨evaluationOrigin, σ.stage.bot.minted⟩ ∧
      σ' = σ.enroll origin deadline language text) ∨
    (∃ e m, σ.evaluations a = some e ∧ e.phase.Proceeds σ.stage e.session m ∧ σ' = σ.move a e m) ∨
    ∃ e p, σ.evaluations a = some e ∧ e.phase.Drops p ∧ σ' = σ.move a e ⟨σ.stage, p, []⟩ := by
  have quiet : ∃ news, σ.history = news ++ σ.history ∧ ∀ o ∈ news, ¬ o.Concerns a :=
    ⟨[], rfl, fun o ho => absurd ho List.not_mem_nil⟩
  cases hs with
  | enroll origin deadline language text =>
      by_cases ha : a = ⟨evaluationOrigin, σ.stage.bot.minted⟩
      · exact .inr (.inl ⟨origin, deadline, language, text, ha, rfl⟩)
      · exact .inl ⟨Function.update_of_ne ha _ _, quiet⟩
  | @proceed b e m he hm =>
      by_cases ha : a = b
      · subst ha
        exact .inr (.inr (.inl ⟨e, m, he, hm, rfl⟩))
      · refine .inl ⟨Function.update_of_ne ha _ _, _, rfl, not_concerns_of_proceeds hm ?_⟩
        rw [(h.addressed b e he).1]
        exact Ne.symm ha
  | @drop b e p he hp =>
      by_cases ha : a = b
      · subst ha
        exact .inr (.inr (.inr ⟨e, p, he, hp, rfl⟩))
      · exact .inl ⟨Function.update_of_ne ha _ _, quiet⟩
  | edit hc => exact .inl ⟨rfl, quiet⟩
  | fire answered hl => exact .inl ⟨rfl, [_], rfl, by simp [Occurrence.Concerns]⟩
  | consider hd hc => exact .inl ⟨rfl, quiet⟩
  | @deliver before after task t hr ht =>
      rcases σ.deliver_cases t (before ++ after) with he | ⟨reply, -, -, -, he⟩
      · rw [he]
        exact .inl ⟨rfl, quiet⟩
      · rw [he]
        exact .inl ⟨rfl, [_], rfl, by simp [Occurrence.Concerns]⟩
  | other hp => exact .inl ⟨rfl, quiet⟩

/-- Nothing concerns an evaluation before it begins. -/
theorem Sound.not_concerns (h : σ.Sound) (ha : a = ⟨evaluationOrigin, σ.stage.bot.minted⟩) :
    ∀ o ∈ σ.history, ¬ o.Concerns a := by
  have hopened (listener : Nat) : .opened a listener ∉ σ.history := fun ho => by
    have hlt := (h.numbered.opened a listener ho).2
    rw [ha] at hlt
    exact Nat.lt_irrefl _ hlt
  intro o ho hc
  cases o with
  | published b listener command =>
      cases hc
      exact hopened listener (h.numbered.published a listener ⟨command, ho⟩)
  | returned b listener reply =>
      cases hc
      exact hopened listener (h.sourced.returned a listener reply ho).1
  | fired | taken | opened => exact hc

/-- What holds of an evaluation when it begins, and is kept while it goes on or is dropped, holds of
it in every state, if what concerns others does not matter. -/
theorem Run.forall_at {P : Ensemble → Prop} (h : Run P σ)
    {motive : Evaluation → List Occurrence → Prop}
    (quiet : ∀ e history news, (∀ o ∈ news, ¬ o.Concerns a) → motive e history →
      motive e (news ++ history))
    (enroll : ∀ session language text history, (∀ o ∈ history, ¬ o.Concerns a) →
      motive ⟨session, language, text, .talking (language.evaluate text)⟩ history)
    (proceed : ∀ σ e m, Run P σ → σ.evaluations a = some e →
      e.phase.Proceeds σ.stage e.session m → motive e σ.history →
      motive { e with phase := m.phase } (m.occurrences ++ σ.history))
    (drop : ∀ e p history, e.phase.Drops p → motive e history →
      motive { e with phase := p } history) :
    ∀ e, σ.evaluations a = some e → motive e σ.history := by
  induction h with
  | start _ =>
      intro e he
      cases he
  | @step σ σ' h hs _ ih =>
      intro e he
      rcases hs.cases_at h.sound.attended a with ⟨hev, news, hh, hn⟩ |
        ⟨origin, deadline, language, text, ha, rfl⟩ | ⟨e', m, he', hm, rfl⟩ | ⟨e', p, he', hp, rfl⟩
      · rw [hh]
        exact quiet e σ.history news hn (ih e (hev ▸ he))
      · have hn := h.sound.not_concerns ha
        subst ha
        rw [evaluations_enroll_self] at he
        cases he
        exact enroll _ language text σ.history hn
      · rw [evaluations_move_self] at he
        cases he
        exact proceed σ e' m h he' hm (ih e' he')
      · rw [evaluations_move_self] at he
        cases he
        exact drop e' p σ.history hp (ih e' he')

/-- The events that the evaluation at `a` needs are there until it is over. -/
def HasEvents (a : CorrelationId) (σ : Ensemble) : Prop :=
  ∀ e, σ.evaluations a = some e → ¬ e.phase.IsOver →
    ∀ event ∈ [CoreEvent.onMessage, CoreEvent.onMessageSent],
      σ.stage.bot.host.schema? event.name = some event.schema

/-- An evaluation that is not over can open an inbox. -/
theorem HasEvents.exists_openInbox {e : Evaluation} (hv : HasEvents a σ)
    (he : σ.evaluations a = some e) (ho : ¬ e.phase.IsOver) (address : CorrelationId) :
    ∃ opened, σ.stage.openInbox address = .ok opened :=
  Stage.exists_openInbox (hv e he ho .onMessageSent (by simp)) address

/-- An evaluation that is not over can publish a command. -/
theorem HasEvents.exists_fireTracked {e : Evaluation} (hv : HasEvents a σ)
    (he : σ.evaluations a = some e) (ho : ¬ e.phase.IsOver) (m : Message) :
    ∃ s, σ.stage.fireTracked .onMessage (Payload.ofMessage m) = .ok s :=
  Stage.exists_fireTracked (hv e he ho .onMessage (by simp)) m

end Ensemble

/-! ### Every step follows the interpreter -/

namespace Ensemble

variable {σ σ' : Ensemble} {answers : Nat → Answer} {a : CorrelationId} {e : Evaluation}

theorem Conforms.hasEvents (hc : Conforms answers a σ) : HasEvents a σ := hc.events

/-- The reply in an inbox is the answer to the command that was published last. -/
theorem Conforms.answer (hc : Conforms answers a σ) (h : σ.Sound)
    (he : σ.evaluations a = some e) {listener : Nat} {command : String}
    {resume : String → Dialogue String} (hp : e.phase = .waiting listener command resume)
    {past : List (Nat × String)}
    (hpub : publishedBy a σ.history = past ++ [(listener, command)]) {reply : Message}
    (hr : σ.stage.reply? listener = some reply) : answers past.length = .ofReply reply := by
  have hl : σ.traffic.roundTrip? a = some listener := by
    rw [Traffic.roundTrip?_of_phase he, hp]
    rfl
  obtain ⟨fire, ht⟩ := h.sourced.replies listener reply hr
  obtain ⟨answered, hs, ha⟩ := h.sourced.meant h.numbered (h.numbered.roundTrip a listener hl) ht
  rw [ha hc.once] at hs
  refine hc.reply past.length listener command (by simp [hpub]) fire reply hs fun hlate => ?_
  have hn := hc.late e listener command resume he hp (by simpa [hpub] using hlate)
  rw [hn] at hr
  cases hr

/-- An evaluation that has a command to publish can open an inbox for it. -/
theorem Conforms.exists_openInbox (hc : Conforms answers a σ) (he : σ.evaluations a = some e)
    {command : String} {resume : String → Dialogue String}
    (hp : e.phase = .talking (.ask command resume)) (address : CorrelationId) :
    ∃ opened, σ.stage.openInbox address = .ok opened :=
  hc.hasEvents.exists_openInbox he (by rw [hp]; exact id) address

/-- An evaluation with an inbox can publish its command. -/
theorem Conforms.exists_fireTracked (hc : Conforms answers a σ) (he : σ.evaluations a = some e)
    {listener : Nat} {command : String} {resume : String → Dialogue String}
    (hp : e.phase = .subscribed listener command resume) (m : Message) :
    ∃ s, σ.stage.fireTracked .onMessage (Payload.ofMessage m) = .ok s :=
  hc.hasEvents.exists_fireTracked he (by rw [hp]; exact id) m

/-- An evaluation that goes on follows the interpreter. -/
theorem Conforms.proceed (hc : Conforms answers a σ) (h : σ.Sound)
    (he : σ.evaluations a = some e) {m : Move}
    (hf : e.phase.Follows answers (outcome answers e) (publishedBy a σ.history))
    (hm : e.phase.Proceeds σ.stage e.session m) :
    m.phase.Follows answers (outcome answers e) (publishedBy a (m.occurrences ++ σ.history)) := by
  have ha : e.session.address = a := (h.attended.addressed a e he).1
  generalize hp : e.phase = p at hm hf
  cases hm with
  | refuse ho =>
      obtain ⟨opened, ho'⟩ := hc.exists_openInbox he hp e.session.address
      rw [ho'] at ho
      cases ho
  | subscribe ho =>
      rw [List.singleton_append, publishedBy_of_none rfl]
      exact hf
  | lose hl =>
      obtain ⟨s, hs⟩ := hc.exists_fireTracked he hp (e.session.request _)
      rw [hs] at hl
      cases hl
  | publish hl =>
      rw [List.singleton_append, publishedBy_cons, Occurrence.command?, if_pos ha]
      exact ⟨_, rfl, hf⟩
  | receive hr =>
      obtain ⟨past, hpub, hf⟩ := hf
      have hans := hc.answer h he hp hpub hr
      rw [← List.length_map (·.2)] at hans
      rw [List.singleton_append, publishedBy_of_none rfl, hpub, Phase.Follows, List.map_append]
      exact (Plain.outcome_afterReply hans).trans hf
  | giveUp hr hd =>
      obtain ⟨past, hpub, hf⟩ := hf
      -- a reply in time would be there by now
      have hlate : answers past.length = .late := by
        by_contra hn
        exact hc.timely e _ _ _ he hp (by simpa [hpub] using hn) hd hr
      rw [← List.length_map (·.2)] at hlate
      rw [List.nil_append, hpub, Phase.Follows, List.map_append]
      exact (Plain.outcome_timeout hlate).trans hf
  | @close listener next =>
      cases next with
      | none => exact hf
      | some d => exact hf

/-- What is left to do gets less. -/
theorem Conforms.stepsLeft_lt (hc : Conforms answers a σ) (h : σ.Sound)
    (he : σ.evaluations a = some e) {m : Move}
    (hf : e.phase.Follows answers (outcome answers e) (publishedBy a σ.history))
    (hm : e.phase.Proceeds σ.stage e.session m) :
    (σ.move a e m).stepsLeft answers a < σ.stepsLeft answers a := by
  have ha : e.session.address = a := (h.attended.addressed a e he).1
  have ho : outcome answers { e with phase := m.phase } = outcome answers e := rfl
  rw [stepsLeft, stepsLeft, he]
  simp only [move, Function.update_self, Option.elim_some, ho, commands, List.length_map]
  generalize outcome answers e = out at hf
  generalize hp : e.phase = p at hm hf
  -- a command that is still to be published is missing from what has been published
  have hlt {command : String} {resume : String → Dialogue String} {past : List (Nat × String)}
      (hf : Plain.outcome ((Dialogue.ask command resume).perform answers) (past.map (·.2)) = out) :
      past.length < out.2.length := by
    have hl := (Dialogue.published_ask answers command resume (past.map (·.2))).length_le
    rw [hf, List.length_append, List.length_map] at hl
    exact hl
  cases hm with
  | refuse ho =>
      have hl := hlt hf
      simp only [Phase.stepsLeft]
      omega
  | subscribe ho =>
      have hl := hlt hf
      rw [List.singleton_append, publishedBy_of_none rfl]
      simp only [Phase.stepsLeft]
      omega
  | lose hl =>
      obtain ⟨s, hs⟩ := hc.exists_fireTracked he hp (e.session.request _)
      rw [hs] at hl
      cases hl
  | publish hl =>
      have hl := hlt hf
      rw [List.singleton_append, publishedBy_cons, Occurrence.command?, if_pos ha,
        List.length_append]
      simp only [Phase.stepsLeft, Option.toList_some, List.length_singleton]
      omega
  | receive hr =>
      rw [List.singleton_append, publishedBy_of_none rfl]
      exact Nat.lt_succ_self _
  | giveUp hr hd => exact Nat.lt_succ_self _
  | @close listener next =>
      cases next with
      | none => exact Nat.succ_pos _
      | some d =>
          cases d with
          | done text => exact Nat.succ_pos _
          | fail error => exact Nat.succ_pos _
          | ask command resume => exact Nat.lt_succ_self _

/-- What is published when an evaluation is dropped is what it had got to. -/
theorem follows_drop {p p' : Phase} {out : Except EvalError String × List String}
    {published : List (Nat × String)} (hf : p.Follows answers out published) (hp : p.Drops p') :
    p'.Follows answers out published := by
  cases hp with
  | talking d => exact hf.commands
  | waiting listener command resume => exact hf.commands

/-- Along a run that answers an evaluation as given, it follows the interpreter. -/
theorem Run.follows (h : Run (Conforms answers a) σ) : ∀ e, σ.evaluations a = some e →
    e.phase.Follows answers (outcome answers e) (publishedBy a σ.history) := by
  refine h.forall_at (motive := fun e history =>
    e.phase.Follows answers (outcome answers e) (publishedBy a history)) ?_ ?_ ?_ ?_
  · intro e history news hn hf
    rw [publishedBy, filterMap_append_of_unconcerned Occurrence.command?_of_not_concerns hn]
    exact hf
  · intro session language text history hn
    rw [publishedBy, filterMap_eq_nil_of_unconcerned Occurrence.command?_of_not_concerns hn]
    change Plain.outcome ((language.evaluate text).perform answers) [] = _
    rw [perform_evaluate]
    rfl
  · exact fun σ e m h he hm hf => h.holds.proceed h.sound he hf hm
  · exact fun e p history hp hf => follows_drop hf hp

/-- **An evaluation is a run of the plain interpreter.**  Whatever else runs on the host, as long as
its surroundings answer it as given,

* it has published the beginning of the list of commands that the interpreter publishes, and where
  it is over, all of them, with the interpreter's result;
* it is over, or can go on, or waits before its deadline for a reply that is not in its inbox;
* going on brings it closer to its end. -/
theorem evaluation_refines (h : Run (Conforms answers a) σ) (he : σ.evaluations a = some e) :
    σ.commands a <+: (outcome answers e).2 ∧
    (∀ text, e.phase = .talking (.done text) → outcome answers e = (.ok text, σ.commands a)) ∧
    (∀ error, e.phase = .talking (.fail error) →
      outcome answers e = (.error error, σ.commands a)) ∧
    (e.phase.IsOver ∨ (∃ m, e.phase.Proceeds σ.stage e.session m) ∨
      ∃ listener command resume, e.phase = .waiting listener command resume ∧
        σ.stage.reply? listener = none ∧ σ.stage.now < e.session.deadline) ∧
    ∀ m, e.phase.Proceeds σ.stage e.session m →
      (σ.move a e m).stepsLeft answers a < σ.stepsLeft answers a := by
  have hf := h.follows e he
  refine ⟨hf.commands, fun text hp => ?_, fun error hp => ?_, ?_,
    fun m hm => h.holds.stepsLeft_lt h.sound he hf hm⟩
  · rw [hp] at hf
    exact hf.symm
  · rw [hp] at hf
    exact hf.symm
  · cases hp : e.phase with
    | talking d =>
        cases d with
        | done text => exact .inl trivial
        | fail error => exact .inl trivial
        | ask command resume =>
            obtain ⟨⟨listener, s⟩, ho⟩ := h.holds.exists_openInbox he hp e.session.address
            exact .inr (.inl ⟨_, .subscribe ho⟩)
    | subscribed listener command resume =>
        obtain ⟨s, hs⟩ := h.holds.exists_fireTracked he hp (e.session.request command)
        exact .inr (.inl ⟨_, .publish hs⟩)
    | waiting listener command resume =>
        cases hr : σ.stage.reply? listener with
        | some reply => exact .inr (.inl ⟨_, .receive hr⟩)
        | none =>
            by_cases hd : e.session.deadline ≤ σ.stage.now
            · exact .inr (.inl ⟨_, .giveUp hr hd⟩)
            · exact .inr (.inr ⟨listener, command, resume, rfl, hr, Nat.lt_of_not_le hd⟩)
    | leaving listener next => exact .inr (.inl ⟨_, .close⟩)
    | gone => exact .inl trivial

/-- The surroundings of the sample run answer every command with the same text. -/
theorem conforms_sample : ∀ σ ∈ Sample.states, Conforms (fun _ => .text "ok") Sample.address σ := by
  have sent {fire : Nat} {m : Message} {answered : Option Nat}
      (hs : Sent Sample.ended.history fire Sample.address m answered) : m = Sample.reply := by
    obtain ⟨payload, hm, hp, -⟩ := hs
    rw [Sample.history_ended] at hm
    simp at hm
    rw [hm.2.1, Payload.message?_ofMessage] at hp
    exact (Option.some.inj hp).symm
  have conforms {σ : Ensemble} (n : Nat) (hh : σ.history = Sample.ended.history.drop n)
      (hn : σ.stage.now = 0) (he : σ.evaluations Sample.address = none ∨
        (∃ p, σ.evaluations Sample.address = some (Sample.evaluation p)) ∧
          ∀ event ∈ [CoreEvent.onMessage, CoreEvent.onMessageSent],
            σ.stage.bot.host.schema? event.name = some event.schema) :
      Conforms (fun _ => .text "ok") Sample.address σ := by
    have hsub : σ.history <:+ Sample.ended.history := hh ▸ List.drop_suffix _ _
    refine ⟨fun e hev _ => ?_, answeredOnce_sample.of_suffix hsub, ?_, ?_, ?_⟩
    · rcases he with he | ⟨-, hs⟩
      · rw [he] at hev
        cases hev
      · exact hs
    · intro n listener command _ fire reply hs _
      obtain ⟨payload, hm, hp⟩ := hs
      rw [sent ⟨payload, hsub.subset hm, hp⟩]
      rfl
    · intro e listener command resume _ _ hl
      cases hl
    · intro e listener command resume hev _ _ hd
      rcases he with he | ⟨⟨p, he⟩, -⟩
      · rw [he] at hev
        cases hev
      · rw [he] at hev
        cases hev
        rw [hn] at hd
        cases hd
  have hw : Sample.waiting.evaluations Sample.address =
      some (Sample.evaluation (.waiting 1 "!a" .done)) := evaluations_move_self _ _ _ _
  have hs : ∀ event ∈ [CoreEvent.onMessage, CoreEvent.onMessageSent],
      Sample.listening.bot.host.schema? event.name = some event.schema := by decide
  simp only [Sample.states, List.forall_mem_cons]
  exact ⟨conforms 5 rfl rfl (.inl rfl), conforms 5 rfl rfl (.inl rfl),
    conforms 5 rfl rfl (.inl rfl),
    conforms 5 rfl rfl (.inr ⟨⟨_, Sample.evaluations_begun⟩, by decide⟩),
    conforms 4 rfl rfl (.inr ⟨⟨_, evaluations_move_self _ _ _ _⟩, hs⟩),
    conforms 3 rfl rfl (.inr ⟨⟨_, hw⟩, hs⟩), conforms 2 rfl rfl (.inr ⟨⟨_, hw⟩, hs⟩),
    conforms 2 rfl rfl (.inr ⟨⟨_, hw⟩, hs⟩), conforms 1 rfl rfl (.inr ⟨⟨_, hw⟩, hs⟩),
    conforms 0 rfl rfl (.inr ⟨⟨_, evaluations_move_self _ _ _ _⟩, hs⟩),
    conforms 0 rfl rfl (.inr ⟨⟨_, evaluations_move_self _ _ _ _⟩, by decide⟩),
    fun _ hm => absurd hm List.not_mem_nil⟩

theorem evaluation_refines_sample :
    Run (Conforms (fun _ => .text "ok") Sample.address) Sample.ended ∧
      Sample.ended.evaluations Sample.address =
        some (Sample.evaluation (.talking (.done "ok"))) ∧
      outcome (fun _ => .text "ok") (Sample.evaluation (.talking (.done "ok"))) =
        (.ok "ok", ["!a"]) := by
  have h := Sample.run conforms_sample
  have he : Sample.ended.evaluations Sample.address =
      some (Sample.evaluation (.talking (.done "ok"))) := evaluations_move_self _ _ _ _
  have hc : Sample.ended.commands Sample.address = ["!a"] := by
    rw [commands, Sample.history_ended]
    rfl
  have ho := (evaluation_refines h he).2.1 "ok" rfl
  rw [hc] at ho
  exact ⟨h, he, ho⟩

end Ensemble

end ChatBot
