import ChatBot.Proofs.Evaluation.Refinement

/-!
# Evaluations are conversations

Whatever goes on around it, an evaluation says what its dialogue says, and goes on with what it is
told.  So what holds of a dialogue for all replies holds of every evaluation.

* `Dialogue.Meets`: what is said and how it ends, for all replies, with the rules by which this is
  proved of a dialogue.
* `Dialogue.Reaches`: a conversation up to some point, and `Dialogue.Reaches.meets` between the two.
* `Phase.Stands`: where an evaluation stands in its conversation.
* `Ensemble.Run.stands`: every evaluation stands in the conversation that its text begins.
* `Phase.wellFounded_next`: no conversation goes on for ever.
-/

namespace ChatBot

/-! ### For all replies -/

/-- What holds of a result, if there is one. -/
def IfOk {α : Type} (P : α → Prop) : Except EvalError α → Prop
  | .ok a => P a
  | .error _ => True

namespace Dialogue

variable {α β : Type} {C C' : List String → String → Prop}
  {P : List String → Except EvalError β → Prop} {Q Q' : List String → Except EvalError α → Prop}
  {heard : List String}

/-- Whatever is replied, each command meets `C` and the end of the conversation meets `Q`.  Both may
go by the texts that have been heard by then. -/
def Meets (C : List String → String → Prop) (Q : List String → Except EvalError α → Prop) :
    List String → Dialogue α → Prop
  | heard, done result => Q heard (.ok result)
  | heard, fail e => Q heard (.error e)
  | heard, ask command resume =>
    C heard command ∧ ∀ text, Meets C Q (heard ++ [text]) (resume text)

/-- What is met is met with less to meet, and it can be used that nothing heard gets lost. -/
theorem Meets.mono {d : Dialogue α} (h : d.Meets C Q heard)
    (hC : ∀ later command, heard <+: later → C later command → C' later command)
    (hQ : ∀ later r, heard <+: later → Q later r → Q' later r) : d.Meets C' Q' heard := by
  induction d generalizing heard with
  | done a => exact hQ heard _ List.prefix_rfl h
  | fail e => exact hQ heard _ List.prefix_rfl h
  | ask command resume ih =>
      refine ⟨hC heard command List.prefix_rfl h.1, fun text => ?_⟩
      have hp : heard <+: heard ++ [text] := List.prefix_append _ _
      exact ih text (h.2 text) (fun later c hl => hC later c (hp.trans hl))
        fun later r hl => hQ later r (hp.trans hl)

/-- One conversation after another. -/
theorem Meets.bind {d : Dialogue β} {f : β → Dialogue α} (h : d.Meets C P heard)
    (hok : ∀ later b, heard <+: later → P later (.ok b) → (f b).Meets C Q later)
    (herror : ∀ later e, heard <+: later → P later (.error e) → Q later (.error e)) :
    (d.bind f).Meets C Q heard := by
  induction d generalizing heard with
  | done b => exact hok heard b List.prefix_rfl h
  | fail e => exact herror heard e List.prefix_rfl h
  | ask command resume ih =>
      refine ⟨h.1, fun text => ?_⟩
      have hp : heard <+: heard ++ [text] := List.prefix_append _ _
      exact ih text (h.2 text) (fun later b hl => hok later b (hp.trans hl))
        fun later e hl => herror later e (hp.trans hl)

/-- A conversation that fails leaves nothing to be met afterwards. -/
theorem Meets.bind_ifOk {P : List String → β → Prop} {R : List String → α → Prop}
    {d : Dialogue β} {f : β → Dialogue α} (h : d.Meets C (fun later => IfOk (P later)) heard)
    (hok : ∀ later b, heard <+: later → P later b →
      (f b).Meets C (fun later => IfOk (R later)) later) :
    (d.bind f).Meets C (fun later => IfOk (R later)) heard :=
  h.bind hok fun _ _ _ _ => trivial

/-! ### One conversation -/

/-- A conversation goes on from `d`.  By now these commands have been published and these texts been
told, each with the number of its round trip. -/
inductive Reaches (d : Dialogue α) :
    List (Nat × String) → List (Nat × String) → Dialogue α → Prop where
  | start : Reaches d [] [] d
  | reply {published told : List (Nat × String)} {command : String} {resume : String → Dialogue α}
      (h : Reaches d published told (.ask command resume)) (listener : Nat) (said : String) :
      Reaches d (published ++ [(listener, command)]) (told ++ [(listener, said)]) (resume said)

/-- A command was published last, and no text was told in its round trip. -/
structure Waits (d : Dialogue α) (published told : List (Nat × String)) (listener : Nat)
    (command : String) (resume : String → Dialogue α) : Prop where
  reaches : ∃ past, d.Reaches past told (.ask command resume) ∧
    published = past ++ [(listener, command)]
  untold : listener ∉ told.map (·.1)

/-- Each command that was published meets `C` with the texts that were told before it. -/
def Said (C : List String → String → Prop) (published told : List (Nat × String)) : Prop :=
  ∀ i listener command, published[i]? = some (listener, command) →
    C ((told.take i).map (·.2)) command

variable {d d' : Dialogue α} {published told : List (Nat × String)} {listener : Nat}
  {command : String} {resume : String → Dialogue α}

theorem Said.concat (h : Said C published told) (hl : published.length = told.length)
    (hc : C (told.map (·.2)) command) (listener : Nat) (more : List (Nat × String)) :
    Said C (published ++ [(listener, command)]) (told ++ more) := by
  intro i listener' command' hi
  have hle : i ≤ told.length := by
    have hlt := (List.getElem?_eq_some_iff.mp hi).1
    rw [List.length_append, List.length_singleton] at hlt
    omega
  rw [List.take_append_of_le_length hle]
  rcases Nat.lt_or_eq_of_le hle with hlt | rfl
  · rw [List.getElem?_append_left (hl ▸ hlt)] at hi
    exact h i listener' command' hi
  · rw [← hl, List.getElem?_concat_length] at hi
    cases hi
    rwa [List.take_length]

namespace Reaches

/-- What has been published has been answered. -/
theorem listeners (h : d.Reaches published told d') : published.map (·.1) = told.map (·.1) := by
  induction h with
  | start => rfl
  | reply h listener said ih => simp [ih]

theorem length (h : d.Reaches published told d') : published.length = told.length := by
  have hl := congrArg List.length h.listeners
  simpa using hl

/-- What is met by a dialogue is met after some replies. -/
theorem meets (h : d.Reaches published told d') (hm : d.Meets C Q []) :
    d'.Meets C Q (told.map (·.2)) := by
  induction h with
  | start => exact hm
  | reply h listener said ih =>
      rw [List.map_append]
      exact ih.2 said

theorem said (h : d.Reaches published told d') (hm : d.Meets C Q []) : Said C published told := by
  induction h with
  | start => intro i listener command hi; cases hi
  | reply h listener said ih => exact ih.concat h.length (h.meets hm).1 listener _

end Reaches

theorem Waits.said (h : d.Waits published told listener command resume) (hm : d.Meets C Q []) :
    Said C published told := by
  obtain ⟨past, hr, rfl⟩ := h.reaches
  have hs := (hr.said hm).concat hr.length (hr.meets hm).1 listener []
  rwa [List.append_nil] at hs

theorem Waits.mem (h : d.Waits published told listener command resume) :
    (listener, command) ∈ published := by
  obtain ⟨past, -, rfl⟩ := h.reaches
  exact List.mem_append_right _ (List.mem_singleton_self _)

/-- A conversation has been carried on so far, be its last command answered with a text or not. -/
def CarriesOn (d : Dialogue α) (published told : List (Nat × String)) : Prop :=
  (∃ d', d.Reaches published told d') ∨
    ∃ listener command resume, d.Waits published told listener command resume

theorem CarriesOn.said (h : d.CarriesOn published told) (hm : d.Meets C Q []) :
    Said C published told := by
  rcases h with ⟨d', hr⟩ | ⟨listener, command, resume, hw⟩
  · exact hr.said hm
  · exact hw.said hm

theorem CarriesOn.length_le (h : d.CarriesOn published told) :
    published.length ≤ told.length + 1 := by
  rcases h with ⟨d', hr⟩ | ⟨listener, command, resume, hw⟩
  · exact hr.length ▸ Nat.le_succ _
  · obtain ⟨past, hr, rfl⟩ := hw.reaches
    exact Nat.le_of_eq (by rw [List.length_append, List.length_singleton, hr.length])

end Dialogue

/-! ### Texts that an evaluation was told -/

/-- The text that the evaluation at `a` was told, with the round trip that it was told in. -/
def Occurrence.told? (a : CorrelationId) : Occurrence → Option (Nat × String)
  | .returned b listener reply =>
    match reply.body with
    | .text said => if b = a then some (listener, said) else none
    | .error _ => none
  | _ => none

/-- What the evaluation at `a` has been told, the latest last. -/
def toldTo (a : CorrelationId) (history : List Occurrence) : List (Nat × String) :=
  history.reverse.filterMap (Occurrence.told? a)

section
variable {a : CorrelationId} {o : Occurrence} {history : List Occurrence} {listener : Nat}

theorem Occurrence.told?_of_text {reply : Message} {said : String} (h : reply.body = .text said) :
    (Occurrence.returned a listener reply).told? a = some (listener, said) := by
  simp [told?, h]

theorem Occurrence.told?_of_error {reply : Message} {reason : String}
    (h : reply.body = .error reason) : (Occurrence.returned a listener reply).told? a = none := by
  simp [told?, h]

theorem Occurrence.told?_of_not_concerns (o : Occurrence) (h : ¬ o.Concerns a) :
    o.told? a = none := by
  cases o with
  | returned b listener reply =>
      rw [told?]
      split
      · exact if_neg h
      · rfl
  | fired | opened | taken | published => rfl

theorem toldTo_cons (a : CorrelationId) (o : Occurrence) (history : List Occurrence) :
    toldTo a (o :: history) = toldTo a history ++ (o.told? a).toList :=
  filterMap_reverse_cons _ o history

theorem toldTo_of_none (ho : o.told? a = none) (history : List Occurrence) :
    toldTo a (o :: history) = toldTo a history := by
  rw [toldTo_cons, ho]
  exact List.append_nil _

theorem mem_toldTo_iff {said : String} : (listener, said) ∈ toldTo a history ↔
    ∃ reply, .returned a listener reply ∈ history ∧ reply.body = .text said := by
  rw [toldTo, List.mem_filterMap]
  constructor
  · rintro ⟨o, ho, hs⟩
    by_cases hc : o.Concerns a
    · cases o with
      | returned b l reply =>
          cases hc
          cases hr : reply.body with
          | text text =>
              rw [Occurrence.told?_of_text hr] at hs
              cases hs
              exact ⟨reply, List.mem_reverse.mp ho, hr⟩
          | error reason =>
              rw [Occurrence.told?_of_error hr] at hs
              cases hs
      | fired | opened | taken | published => cases hs
    · rw [Occurrence.told?_of_not_concerns _ hc] at hs
      cases hs
  · rintro ⟨reply, hr, hs⟩
    exact ⟨_, List.mem_reverse.mpr hr, Occurrence.told?_of_text hs⟩

theorem mem_publishedBy_iff {command : String} : (listener, command) ∈ publishedBy a history ↔
    .published a listener command ∈ history := by
  rw [publishedBy, List.mem_filterMap]
  constructor
  · rintro ⟨o, ho, hs⟩
    by_cases hc : o.Concerns a
    · cases o with
      | published b l c =>
          cases hc
          rw [Occurrence.command?, if_pos rfl] at hs
          cases hs
          exact List.mem_reverse.mp ho
      | fired | opened | taken | returned => cases hs
    · rw [Occurrence.command?_of_not_concerns _ hc] at hs
      cases hs
  · intro hm
    exact ⟨_, List.mem_reverse.mpr hm, if_pos rfl⟩

theorem mem_returners_of_mem_toldTo (h : listener ∈ (toldTo a history).map (·.1)) :
    listener ∈ history.filterMap Occurrence.returner? := by
  obtain ⟨⟨l, said⟩, hm, rfl⟩ := List.mem_map.mp h
  obtain ⟨reply, hr, -⟩ := mem_toldTo_iff.mp hm
  exact List.mem_filterMap.mpr ⟨_, hr, rfl⟩

end

/-! ### Where an evaluation stands -/

/-- An evaluation has failed although its conversation could go on: the last command was not
answered with a text, or an event was not `available`. -/
inductive Dialogue.Breaks (available : Prop) (d : Dialogue String)
    (published told : List (Nat × String)) : EvalError → Prop where
  | event {command : String} {resume : String → Dialogue String} (hn : ¬ available)
      (h : d.Reaches published told (.ask command resume)) (error : EventError) :
      Breaks available d published told (.event error)
  | timeout {listener : Nat} {command : String} {resume : String → Dialogue String}
      (h : d.Waits published told listener command resume) :
      Breaks available d published told (.timeout command)
  | refused {listener : Nat} {command : String} {resume : String → Dialogue String}
      (h : d.Waits published told listener command resume) (reason : String) :
      Breaks available d published told (.commandFailed command reason)

/-- Where an evaluation stands in the conversation that `d` begins. -/
inductive Phase.Stands (available : Prop) (d : Dialogue String)
    (published told : List (Nat × String)) : Phase → Prop where
  | talking {d' : Dialogue String} (h : d.Reaches published told d') :
      Stands available d published told (.talking d')
  | subscribed {command : String} {resume : String → Dialogue String}
      (h : d.Reaches published told (.ask command resume)) (listener : Nat) :
      Stands available d published told (.subscribed listener command resume)
  | waiting {listener : Nat} {command : String} {resume : String → Dialogue String}
      (h : d.Waits published told listener command resume) :
      Stands available d published told (.waiting listener command resume)
  | leaving {d' : Dialogue String} (h : d.Reaches published told d') (listener : Nat) :
      Stands available d published told (.leaving listener (some d'))
  | breaking {e : EvalError} (h : d.Breaks available published told e) (listener : Nat) :
      Stands available d published told (.leaving listener (some (.fail e)))
  | broken {e : EvalError} (h : d.Breaks available published told e) :
      Stands available d published told (.talking (.fail e))
  | dropping (h : d.CarriesOn published told) (listener : Nat) :
      Stands available d published told (.leaving listener none)
  | gone (h : d.CarriesOn published told) : Stands available d published told .gone

section
variable {available : Prop} {d : Dialogue String} {published told : List (Nat × String)}
  {p p' : Phase}

theorem Dialogue.Breaks.carriesOn {e : EvalError} (h : d.Breaks available published told e) :
    d.CarriesOn published told := by
  cases h with
  | event hn h => exact .inl ⟨_, h⟩
  | timeout h | refused h => exact .inr ⟨_, _, _, h⟩

namespace Phase.Stands

theorem carriesOn (h : p.Stands available d published told) : d.CarriesOn published told := by
  cases h with
  | talking h | subscribed h | leaving h => exact .inl ⟨_, h⟩
  | waiting h => exact .inr ⟨_, _, _, h⟩
  | breaking h | broken h => exact h.carriesOn
  | dropping h | gone h => exact h

theorem drop (h : p.Stands available d published told) (hp : p.Drops p') :
    p'.Stands available d published told := by
  cases hp with
  | talking => exact .gone h.carriesOn
  | waiting => exact .dropping h.carriesOn _

end Phase.Stands

end

namespace Ensemble

variable {σ σ' : Ensemble} {a : CorrelationId} {e : Evaluation} {available : Prop}

/-- An evaluation that goes on stays in its conversation. -/
theorem Sound.stands (h : σ.Sound) (hv : available → HasEvents a σ)
    (he : σ.evaluations a = some e) {d : Dialogue String} {m : Move}
    (hs : e.phase.Stands available d (publishedBy a σ.history) (toldTo a σ.history))
    (hm : e.phase.Proceeds σ.stage e.session m) :
    m.phase.Stands available d (publishedBy a (m.occurrences ++ σ.history))
      (toldTo a (m.occurrences ++ σ.history)) := by
  have ha : e.session.address = a := (h.attended.addressed a e he).1
  have hawaited := h.counted.awaited a e he
  generalize hp : e.phase = p at hm hs hawaited
  cases hm with
  | refuse ho =>
      cases hs with
      | talking hr =>
          -- with its event there, the inbox would have been opened
          refine .broken (.event (fun havailable => ?_) hr _)
          obtain ⟨opened, ho'⟩ := (hv havailable).exists_openInbox he (by rw [hp]; exact id)
            e.session.address
          rw [ho'] at ho
          cases ho
  | subscribe ho =>
      rw [List.singleton_append, publishedBy_of_none rfl, toldTo_of_none rfl]
      cases hs with
      | talking hr => exact .subscribed hr _
  | @lose listener command resume error hl =>
      cases hs with
      | subscribed hr =>
          refine .breaking (.event (fun havailable => ?_) hr _) _
          obtain ⟨s, hs⟩ := (hv havailable).exists_fireTracked he (by rw [hp]; exact id)
            (e.session.request command)
          rw [hs] at hl
          cases hl
  | @publish listener command resume s' hl =>
      rw [List.singleton_append, publishedBy_cons, Occurrence.command?, if_pos ha,
        toldTo_of_none rfl]
      cases hs with
      | subscribed hr =>
          -- a round trip that goes on has not returned, so nothing was told in it
          exact .waiting ⟨⟨_, hr, rfl⟩,
            fun hm => hawaited listener rfl (mem_returners_of_mem_toldTo hm)⟩
  | @receive listener command resume reply hr =>
      rw [ha, List.singleton_append, publishedBy_of_none rfl]
      cases hs with
      | waiting hw =>
          rw [Dialogue.afterReply, replyText]
          cases hb : reply.body with
          | text said =>
              rw [toldTo_cons, Occurrence.told?_of_text hb]
              obtain ⟨past, hr, hpub⟩ := hw.reaches
              rw [hpub]
              exact .leaving (.reply hr listener said) listener
          | error reason =>
              rw [toldTo_of_none (Occurrence.told?_of_error hb)]
              exact .breaking (.refused hw reason) listener
  | @giveUp listener command resume hr hd =>
      cases hs with
      | waiting hw => exact .breaking (.timeout hw) listener
  | @close listener next =>
      cases hs with
      | leaving hr => exact .talking hr
      | breaking hb => exact .broken hb
      | dropping h => exact .gone h

/-- **Every evaluation stands in the conversation that its text begins**, whatever goes on around
it. -/
theorem Run.stands {P : Ensemble → Prop} (h : Run P σ) (hP : available → ∀ σ, P σ → HasEvents a σ) :
    ∀ e, σ.evaluations a = some e → e.phase.Stands available (e.language.evaluate e.text)
      (publishedBy a σ.history) (toldTo a σ.history) := by
  refine h.forall_at (motive := fun e history =>
    e.phase.Stands available (e.language.evaluate e.text) (publishedBy a history)
      (toldTo a history)) ?_ ?_ ?_ ?_
  · intro e history news hn hs
    rw [publishedBy, toldTo,
      filterMap_append_of_unconcerned Occurrence.command?_of_not_concerns hn,
      filterMap_append_of_unconcerned Occurrence.told?_of_not_concerns hn]
    exact hs
  · intro session language text history hn
    rw [publishedBy, toldTo, filterMap_eq_nil_of_unconcerned Occurrence.command?_of_not_concerns hn,
      filterMap_eq_nil_of_unconcerned Occurrence.told?_of_not_concerns hn]
    exact .talking .start
  · exact fun σ e m h he hm hs => h.sound.stands (fun hv => hP hv σ h.holds) he hs hm
  · exact fun e p history hp hs => hs.drop hp

end Ensemble

/-! ### The end of a conversation -/

/-- An evaluation goes on from one phase to another, on whatever stage. -/
def Phase.Next (p' p : Phase) : Prop :=
  ∃ s session m, p.Proceeds s session m ∧ m.phase = p'

namespace Phase

theorem acc_of_proceeds {p : Phase}
    (h : ∀ s session m, p.Proceeds s session m → Acc Next m.phase) : Acc Next p := by
  refine ⟨p, ?_⟩
  rintro p' ⟨s, session, m, hm, rfl⟩
  exact h s session m hm

theorem acc_gone : Acc Next .gone := acc_of_proceeds fun _ _ _ hm => (by cases hm)

theorem acc_fail (e : EvalError) : Acc Next (.talking (.fail e)) :=
  acc_of_proceeds fun _ _ _ hm => (by cases hm)

theorem acc_leaving {next : Option (Dialogue String)} (h : ∀ d ∈ next, Acc Next (.talking d))
    (listener : Nat) : Acc Next (.leaving listener next) := by
  refine acc_of_proceeds fun s session m hm => ?_
  cases hm
  cases next with
  | none => exact acc_gone
  | some d => exact h d rfl

theorem acc_leaving_fail (listener : Nat) (e : EvalError) :
    Acc Next (.leaving listener (some (.fail e))) := by
  refine acc_leaving ?_ listener
  rintro d ⟨⟩
  exact acc_fail e

section
variable {resume : String → Dialogue String} (h : ∀ text, Acc Next (.talking (resume text)))
include h

theorem acc_waiting (listener : Nat) (command : String) :
    Acc Next (.waiting listener command resume) := by
  refine acc_of_proceeds fun s session m hm => ?_
  cases hm with
  | receive hr =>
      rw [Dialogue.afterReply]
      split
      · refine acc_leaving ?_ listener
        rintro d ⟨⟩
        exact h _
      · exact acc_leaving_fail listener _
  | giveUp hr hd => exact acc_leaving_fail listener _

theorem acc_subscribed (listener : Nat) (command : String) :
    Acc Next (.subscribed listener command resume) := by
  refine acc_of_proceeds fun s session m hm => ?_
  cases hm with
  | lose hf => exact acc_leaving_fail listener _
  | publish hf => exact acc_waiting h listener command

end

theorem acc_talking (d : Dialogue String) : Acc Next (.talking d) := by
  induction d with
  | done text => exact acc_of_proceeds fun _ _ _ hm => (by cases hm)
  | fail e => exact acc_fail e
  | ask command resume ih =>
      refine acc_of_proceeds fun s session m hm => ?_
      cases hm with
      | refuse ho => exact acc_fail _
      | subscribe ho => exact acc_subscribed ih _ command

/-- **An evaluation goes on finitely often**, whatever is replied. -/
theorem wellFounded_next : WellFounded Next := by
  refine ⟨fun p => ?_⟩
  cases p with
  | talking d => exact acc_talking d
  | subscribed listener command resume =>
      exact acc_subscribed (fun text => acc_talking (resume text)) listener command
  | waiting listener command resume =>
      exact acc_waiting (fun text => acc_talking (resume text)) listener command
  | leaving listener next => exact acc_leaving (fun d _ => acc_talking d) listener
  | gone => exact acc_gone

end Phase

end ChatBot
