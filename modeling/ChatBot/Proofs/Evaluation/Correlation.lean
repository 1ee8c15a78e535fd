import ChatBot.Proofs.Evaluation.Answers
import ChatBot.Proofs.Evaluation.Attendance

/-!
# Round trips get their own replies

Three things keep the replies of round trips apart: numbers are given out once (`Traffic.Numbered`),
what is under way to an inbox was fired while the inbox listened (`Traffic.Sourced`), and an inbox
takes one message (`Traffic.Counted`).  Each is kept by every step of the traffic, and so holds in
every state that an ensemble reaches.

`Ensemble.round_trips_correlate`: what a round trip returns has the address of its evaluation, is
consumed by nobody else, and answers the command of this round trip where every command is answered
once.
-/

namespace ChatBot

/-! ### Nothing is taken twice -/

namespace Occurrence

/-- The number of a fire. -/
def fire? : Occurrence → Option Nat
  | .fired fire _ _ _ => some fire
  | _ => none

/-- The fire whose message was put into an inbox. -/
def source? : Occurrence → Option Nat
  | .taken fire _ _ => some fire
  | _ => none

/-- The inbox that took a message. -/
def taker? : Occurrence → Option Nat
  | .taken _ listener _ => some listener
  | _ => none

/-- The round trip that returned. -/
def returner? : Occurrence → Option Nat
  | .returned _ listener _ => some listener
  | _ => none

end Occurrence

/-- The round trip that an evaluation is in and that has not returned yet. -/
def Phase.awaited? : Phase → Option Nat
  | .subscribed listener _ _ | .waiting listener _ _ => some listener
  | .talking _ | .leaving _ _ | .gone => none

/-- No message is under way twice or after it was taken, an inbox that took one is full, and a round
trip that returned does not wait. -/
structure Traffic.Counted (t : Traffic) : Prop where
  fires : (t.history.filterMap Occurrence.fire?).Nodup
  fire : ∀ k ∈ t.history.filterMap Occurrence.fire?, k < t.fires
  sources : (t.underway.map (·.fire) ++ t.history.filterMap Occurrence.source?).Nodup
  source : ∀ k ∈ t.underway.map (·.fire) ++ t.history.filterMap Occurrence.source?, k < t.fires
  takers : (t.history.filterMap Occurrence.taker?).Nodup
  full : ∀ listener ∈ t.history.filterMap Occurrence.taker?, listener ∈ t.inboxes →
    t.replies.lookup listener ≠ none
  returners : (t.history.filterMap Occurrence.returner?).Nodup
  awaited : ∀ a e, t.evaluations a = some e → ∀ listener, e.phase.awaited? = some listener →
    listener ∉ t.history.filterMap Occurrence.returner?

namespace Traffic

variable {t t' : Traffic}

theorem Sourced.opened_of_taker (h : t.Sourced) {listener : Nat}
    (hl : listener ∈ t.history.filterMap Occurrence.taker?) :
    ∃ a, .opened a listener ∈ t.history := by
  obtain ⟨o, ho, hl⟩ := List.mem_filterMap.mp hl
  cases o with
  | taken fire l reply =>
      cases hl
      obtain ⟨a, ha, -⟩ := h.taken fire listener reply ho
      exact ⟨a, ha⟩
  | fired | opened | published | returned => cases hl

theorem Sourced.opened_of_returner (h : t.Sourced) {listener : Nat}
    (hl : listener ∈ t.history.filterMap Occurrence.returner?) :
    ∃ a, .opened a listener ∈ t.history := by
  obtain ⟨o, ho, hl⟩ := List.mem_filterMap.mp hl
  cases o with
  | returned a l reply =>
      cases hl
      exact ⟨a, (h.returned a listener reply ho).1⟩
  | fired | opened | published | taken => cases hl

namespace Counted

theorem listener?_of_awaited? {p : Phase} {listener : Nat} (hp : p.awaited? = some listener) :
    p.listener? = some listener := by
  cases p with
  | subscribed | waiting => exact hp
  | talking | leaving | gone => cases hp

theorem awaited?_of_isFailing {p : Phase} (hp : p.IsFailing) : p.awaited? = none := by
  cases p with
  | talking | leaving | gone => rfl
  | subscribed | waiting => exact hp.elim

/-- A fire is the source of what it brings on its way, and of nothing that was there before. -/
theorem sources_fire (h : t.Counted) {event : String} {payload : Payload}
    {underway : List Delivery}
    (hu : underway.Perm ((t.delivery? event payload).toList ++ t.underway)) :
    (underway.map (·.fire) ++ t.history.filterMap Occurrence.source?).Nodup ∧
      ∀ k ∈ underway.map (·.fire) ++ t.history.filterMap Occurrence.source?, k < t.fires + 1 := by
  have hf : t.fires ∉ t.underway.map (·.fire) ++ t.history.filterMap Occurrence.source? :=
    fun hm => Nat.lt_irrefl _ (h.source _ hm)
  have hp := (hu.map (·.fire)).append_right (t.history.filterMap Occurrence.source?)
  cases hd : t.delivery? event payload with
  | none =>
      rw [hd] at hp
      exact ⟨hp.nodup_iff.mpr h.sources,
        fun k hk => Nat.lt_succ_of_lt (h.source k (hp.mem_iff.mp hk))⟩
  | some d =>
      rw [hd] at hp
      have hp : (underway.map (·.fire) ++ t.history.filterMap Occurrence.source?).Perm
          (t.fires :: (t.underway.map (·.fire) ++ t.history.filterMap Occurrence.source?)) :=
        (delivery?_eq_some hd).2.1 ▸ hp
      refine ⟨hp.nodup_iff.mpr (List.nodup_cons.mpr ⟨hf, h.sources⟩), fun k hk => ?_⟩
      rcases List.mem_cons.mp (hp.mem_iff.mp hk) with rfl | hk
      · exact Nat.lt_succ_self _
      · exact Nat.lt_succ_of_lt (h.source k hk)

theorem step (h : t.Counted) (hn : t.Numbered) (hs : t.Sourced) (ht : t.Step t') : t'.Counted := by
  cases ht with
  | quiet hm hu =>
      -- a message that gets lost is neither under way nor taken
      obtain ⟨kept, hp, hk⟩ := hu
      have hp := (hp.map (·.fire)).append_right (t.history.filterMap Occurrence.source?)
      have hk := (hk.map (·.fire)).append_right (t.history.filterMap Occurrence.source?)
      exact ⟨h.fires, h.fire, hp.nodup_iff.mp (h.sources.sublist hk),
        fun k hm => h.source k (hk.mem (hp.mem_iff.mpr hm)), h.takers, h.full, h.returners,
        h.awaited⟩
  | @enroll e d ha hp =>
      refine ⟨h.fires, h.fire, h.sources, h.source, h.takers, h.full, h.returners,
        Evaluation.forall_update (fun listener hl => ?_) fun b e' he' _ => h.awaited b e' he'⟩
      rw [hp] at hl
      cases hl
  | fail he hl hp =>
      refine ⟨h.fires, h.fire, h.sources, h.source, h.takers, h.full, h.returners,
        Evaluation.forall_update (fun listener hl => ?_) fun b e' he' _ => h.awaited b e' he'⟩
      rw [awaited?_of_isFailing hp] at hl
      cases hl
  | @subscribe a e command resume he hp =>
      refine ⟨h.fires, h.fire, h.sources, h.source, h.takers, fun listener hl hi => ?_, h.returners,
        Evaluation.forall_update (fun listener hl hm => ?_) fun b e' he' _ => h.awaited b e' he'⟩
      · rcases List.mem_cons.mp hi with rfl | hi
        · obtain ⟨b, hb⟩ := hs.opened_of_taker hl
          exact absurd (hn.opened b _ hb).1 (Nat.lt_irrefl _)
        · exact h.full listener hl hi
      · cases hl
        obtain ⟨b, hb⟩ := hs.opened_of_returner hm
        exact absurd (hn.opened b _ hb).1 (Nat.lt_irrefl _)
  | @publish a e listener command resume he hp =>
      refine ⟨h.fires, h.fire, h.sources, h.source, h.takers, h.full, h.returners,
        Evaluation.forall_update (fun other hl => ?_) fun b e' he' _ => h.awaited b e' he'⟩
      exact h.awaited a e he other (by rw [hp]; exact hl)
  | @receive a e listener command resume reply he hp hr =>
      have hl : t.roundTrip? a = some listener := by
        rw [roundTrip?_of_phase he, hp]
        rfl
      refine ⟨h.fires, h.fire, h.sources, h.source, h.takers, h.full,
        List.nodup_cons.mpr ⟨h.awaited a e he listener (by rw [hp]; rfl), h.returners⟩,
        Evaluation.forall_update (fun other ho => (by cases ho)) fun b e' he' hb other ho hm => ?_⟩
      rcases List.mem_cons.mp hm with rfl | hm
      -- otherwise two evaluations would be in one round trip
      · have ho' : t.roundTrip? b = some other :=
          (roundTrip?_of_phase he').trans (listener?_of_awaited? ho)
        have hb' := hn.roundTrip b other ho'
        exact hb (hn.unique b a other hb' (hn.roundTrip a other hl))
      · exact h.awaited b e' he' other ho hm
  | @close a e listener next he hp =>
      refine ⟨h.fires, h.fire, h.sources, h.source, h.takers, fun other ho hi => ?_, h.returners,
        Evaluation.forall_update (fun other ho => ?_) fun b e' he' _ => h.awaited b e' he'⟩
      · obtain ⟨hne, hi⟩ := (hn.nodup.mem_erase_iff).mp hi
        rw [lookup_filter_ne, if_neg hne]
        exact h.full other ho hi
      · cases next <;> cases ho
  | @fire event payload answered underway hu =>
      have hs := h.sources_fire hu
      refine ⟨List.nodup_cons.mpr ⟨fun hm => Nat.lt_irrefl _ (h.fire _ hm), h.fires⟩,
        fun k hk => ?_, hs.1, hs.2, h.takers, h.full, h.returners, h.awaited⟩
      rcases List.mem_cons.mp hk with rfl | hk
      · exact Nat.lt_succ_self _
      · exact Nat.lt_succ_of_lt (h.fire k hk)
  | @take d underway hu hi hr =>
      have hp : (t.underway.map (·.fire) ++ t.history.filterMap Occurrence.source?).Perm
          (underway.map (·.fire) ++ d.fire :: t.history.filterMap Occurrence.source?) :=
        ((hu.map (·.fire)).append_right _).trans List.perm_middle.symm
      refine ⟨h.fires, h.fire, hp.nodup_iff.mp h.sources,
        fun k hk => h.source k (hp.mem_iff.mpr hk),
        List.nodup_cons.mpr ⟨fun hm => h.full _ hm hi hr, h.takers⟩, fun listener hl hi' => ?_,
        h.returners, h.awaited⟩
      rw [List.lookup_cons]
      split
      · exact Option.some_ne_none _
      · rename_i hne
        rcases List.mem_cons.mp hl with rfl | hl
        · simp at hne
        · exact h.full listener hl hi'

end Counted

end Traffic

/-! ### What an ensemble reaches -/

namespace Ensemble

/-- The inbox of the round trip that the evaluation at `a` is in. -/
def roundTrip? (σ : Ensemble) (a : CorrelationId) : Option Nat :=
  (σ.evaluations a).bind (·.phase.listener?)

/-- What every step keeps. -/
structure Sound (σ : Ensemble) : Prop where
  attended : σ.Attended
  numbered : σ.traffic.Numbered
  sourced : σ.traffic.Sourced
  counted : σ.traffic.Counted

theorem sound_start : start.Sound where
  attended := attended_start
  numbered :=
    { evaluation := fun _ he => absurd rfl he
      opened := fun _ _ hm => absurd hm List.not_mem_nil
      unique := fun _ _ _ hm => absurd hm List.not_mem_nil
      roundTrip := fun _ _ hl => (by cases hl)
      published := fun _ _ ⟨_, hm⟩ => absurd hm List.not_mem_nil
      inbox := fun _ hm => absurd hm List.not_mem_nil
      nodup := List.nodup_nil }
  sourced :=
    { underway := fun _ hm => absurd hm List.not_mem_nil
      taken := fun _ _ _ hm => absurd hm List.not_mem_nil
      replies := fun _ _ hl => (by cases hl)
      returned := fun _ _ _ hm => absurd hm List.not_mem_nil
      settled := fun _ _ he => (by cases he) }
  counted :=
    { fires := List.nodup_nil
      fire := fun _ hm => absurd hm List.not_mem_nil
      sources := List.nodup_nil
      source := fun _ hm => absurd hm List.not_mem_nil
      takers := List.nodup_nil
      full := fun _ hm => absurd hm List.not_mem_nil
      returners := List.nodup_nil
      awaited := fun _ _ he => (by cases he) }

theorem Sound.step {σ σ' : Ensemble} (h : σ.Sound) (hs : Step σ σ') : σ'.Sound := by
  have ht : Traffic.Step σ.traffic σ'.traffic := hs.traffic h.attended
  exact ⟨h.attended.step hs, h.numbered.step ht, h.sourced.step h.numbered ht,
    h.counted.step h.numbered h.sourced ht⟩

theorem Run.sound {P : Ensemble → Prop} {σ : Ensemble} (h : Run P σ) : σ.Sound := by
  induction h with
  | start _ => exact sound_start
  | step _ hs _ ih => exact ih.step hs

/-- **Every round trip gets its own reply.**  Whatever evaluations, others and the clock do, and in
whatever order,

* a round trip returns only messages with the address of its evaluation;
* no message that was fired is taken by two inboxes, or twice; no inbox takes two messages, no round
  trip returns twice, and what it returns is the message that its inbox took;
* the host has one listener with the address of an evaluation while this is in a round trip, and
  none while it is not;
* if all that is sent to an evaluation answers its commands, each at most once and not beforehand,
  then what a round trip returns was sent as the answer to the command of this very round trip. -/
theorem round_trips_correlate {σ : Ensemble} (h : Reachable σ) :
    (∀ a listener reply, .returned a listener reply ∈ σ.history → reply.address = .internal a) ∧
    ((σ.history.filterMap Occurrence.fire?).Nodup ∧ (σ.history.filterMap Occurrence.source?).Nodup ∧
      (σ.history.filterMap Occurrence.taker?).Nodup ∧
      (σ.history.filterMap Occurrence.returner?).Nodup ∧
      (∀ fire listener reply, .taken fire listener reply ∈ σ.history →
        ∃ a answered, Sent σ.history fire a reply answered) ∧
      ∀ a listener reply, .returned a listener reply ∈ σ.history →
        ∃ fire, .taken fire listener reply ∈ σ.history) ∧
    ((∀ a, σ.listeners a = (σ.roundTrip? a).toList.map (inboxCallback · a)) ∧
      ∀ event, event ≠ CoreEvent.onMessageSent.name →
        ∀ c ∈ (σ.stage.bot.host.register event).callbacks, c.inbox? = none) ∧
    ∀ a, AnsweredOnce a σ.history → ∀ listener reply, .returned a listener reply ∈ σ.history →
      ∀ fire, .taken fire listener reply ∈ σ.history →
        Sent σ.history fire a reply (some listener) := by
  obtain ⟨hatt, hn, hs, hc⟩ := Run.sound h
  refine ⟨fun a listener reply hr => ?_, ⟨hc.fires, (List.nodup_append.mp hc.sources).2.1,
    hc.takers, hc.returners, fun fire listener reply ht => ?_, fun a listener reply hr => ?_⟩,
    ⟨hatt.serves.listed, hatt.serves.elsewhere⟩, fun a hao listener reply hr fire ht => ?_⟩
  · obtain ⟨ha, fire, ht⟩ := hs.returned a listener reply hr
    obtain ⟨answered, ⟨payload, -, -, haddr⟩, -⟩ := hs.meant hn ha ht
    exact haddr
  · obtain ⟨a, -, answered, hm, -⟩ := hs.taken fire listener reply ht
    exact ⟨a, answered, hm⟩
  · exact (hs.returned a listener reply hr).2
  · obtain ⟨answered, hm, hans⟩ := hs.meant hn (hs.returned a listener reply hr).1 ht
    exact hans hao ▸ hm

theorem answeredOnce_sample : AnsweredOnce Sample.address Sample.ended.history := by
  rw [Sample.history_ended]
  refine ⟨fun _ _ => ⟨1, rfl, ⟨"!a", List.mem_cons_self⟩, fun fire reply hs => ?_⟩, trivial⟩
  obtain ⟨payload, hm, -⟩ := hs
  simp at hm

theorem round_trips_correlate_sample : Reachable Sample.ended ∧
    .returned Sample.address 1 Sample.reply ∈ Sample.ended.history ∧
    Sent Sample.ended.history 0 Sample.address Sample.reply (some 1) := by
  have h : Reachable Sample.ended := Sample.run fun _ _ => trivial
  have hr : .returned Sample.address 1 Sample.reply ∈ Sample.ended.history := by
    rw [Sample.history_ended]
    exact List.mem_cons_self
  have ht : .taken 0 1 Sample.reply ∈ Sample.ended.history := by
    rw [Sample.history_ended]
    exact List.mem_cons_of_mem _ List.mem_cons_self
  exact ⟨h, hr, (round_trips_correlate h).2.2.2 _ answeredOnce_sample 1 _ hr 0 ht⟩

end Ensemble

end ChatBot
