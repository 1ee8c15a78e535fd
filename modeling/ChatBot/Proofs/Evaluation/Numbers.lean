import ChatBot.Proofs.Evaluation.Traffic

/-!
# Numbers are given out once

Evaluations and inboxes go by numbers from one counter.  So an address belongs to one evaluation, an
inbox to one round trip, and what has happened under a number that is still to be given out is
nothing.  `Traffic.Numbered` says so of a traffic and its history; `Traffic.Numbered.step` that
every step keeps it.
-/

namespace ChatBot

/-- The evaluation at `a` has published the command of a round trip. -/
def Published (history : List Occurrence) (a : CorrelationId) (listener : Nat) : Prop :=
  ∃ command, .published a listener command ∈ history

/-- What is published was published before, or is just now. -/
theorem Published.of_cons {history : List Occurrence} {o : Occurrence} {a : CorrelationId}
    {listener : Nat} (h : Published (o :: history) a listener) :
    Published history a listener ∨ ∃ command, o = .published a listener command := by
  obtain ⟨command, hm⟩ := h
  rcases List.mem_cons.mp hm with rfl | hm
  · exact .inr ⟨command, rfl⟩
  · exact .inl ⟨command, hm⟩

/-- Inboxes and evaluations go by numbers that were given out for them. -/
structure Traffic.Numbered (t : Traffic) : Prop where
  evaluation : ∀ a, t.evaluations a ≠ none → a.serial < t.minted
  opened : ∀ a listener, .opened a listener ∈ t.history → listener < t.minted ∧ a.serial < t.minted
  unique : ∀ a b listener, .opened a listener ∈ t.history → .opened b listener ∈ t.history → a = b
  roundTrip : ∀ a listener, t.roundTrip? a = some listener → .opened a listener ∈ t.history
  published : ∀ a listener, Published t.history a listener → .opened a listener ∈ t.history
  inbox : ∀ listener ∈ t.inboxes, listener < t.minted
  nodup : t.inboxes.Nodup

namespace Traffic

variable {t t' : Traffic}

theorem evaluations_turn_ne_none {a : CorrelationId} {e : Evaluation} {p : Phase}
    (he : t.evaluations a = some e) (b : CorrelationId)
    (hb : (t.turn a e p).evaluations b ≠ none) : t.evaluations b ≠ none := by
  by_cases hba : b = a
  · subst hba
    simp [he]
  · simpa only [turn, Function.update_of_ne hba] using hb

/-- An evaluation that opens no inbox is in no other round trip than before. -/
theorem roundTrip?_of_turn {a : CorrelationId} {e : Evaluation} {p : Phase}
    (he : t.evaluations a = some e) (hp : p.listener? = none ∨ p.listener? = e.phase.listener?)
    (b : CorrelationId) (listener : Nat) (hb : (t.turn a e p).roundTrip? b = some listener) :
    t.roundTrip? b = some listener := by
  rw [roundTrip?_turn] at hb
  by_cases hba : b = a
  · subst hba
    rw [Function.update_self] at hb
    rcases hp with hp | hp
    · rw [hp] at hb
      cases hb
    · rw [roundTrip?_of_phase he, ← hp, hb]
  · rwa [Function.update_of_ne hba] at hb

namespace Numbered

/-- Steps that neither begin an evaluation nor a round trip. -/
theorem of_le (h : t.Numbered) (hm : t.minted ≤ t'.minted)
    (he : ∀ a, t'.evaluations a ≠ none → t.evaluations a ≠ none)
    (hr : ∀ a listener, t'.roundTrip? a = some listener → t.roundTrip? a = some listener)
    (hi : t'.inboxes.Sublist t.inboxes) (hh : ∀ o ∈ t.history, o ∈ t'.history)
    (ho : ∀ a listener, .opened a listener ∈ t'.history → .opened a listener ∈ t.history)
    (hp : ∀ a listener, Published t'.history a listener →
      Published t.history a listener ∨ t.roundTrip? a = some listener) : t'.Numbered where
  evaluation a hn := Nat.lt_of_lt_of_le (h.evaluation a (he a hn)) hm
  opened a listener hm' :=
    ⟨Nat.lt_of_lt_of_le (h.opened a listener (ho a listener hm')).1 hm,
      Nat.lt_of_lt_of_le (h.opened a listener (ho a listener hm')).2 hm⟩
  unique a b listener ha hb := h.unique a b listener (ho a listener ha) (ho b listener hb)
  roundTrip a listener hl := hh _ (h.roundTrip a listener (hr a listener hl))
  published a listener hl := by
    rcases hp a listener hl with hl | hl
    · exact hh _ (h.published a listener hl)
    · exact hh _ (h.roundTrip a listener hl)
  inbox listener hl := Nat.lt_of_lt_of_le (h.inbox listener (hi.mem hl)) hm
  nodup := h.nodup.sublist hi

/-- A new evaluation gets a number of its own. -/
theorem enroll (h : t.Numbered) {e : Evaluation} {d : Dialogue String}
    (ha : e.session.address = ⟨evaluationOrigin, t.minted⟩) (hp : e.phase = .talking d) :
    Numbered { t with
      minted := t.minted + 1
      evaluations := Function.update t.evaluations e.session.address (some e) } where
  evaluation a hn := by
    by_cases hae : a = e.session.address
    · rw [hae, ha]
      exact Nat.lt_succ_self _
    · simp only [Function.update_of_ne hae] at hn
      exact Nat.lt_succ_of_lt (h.evaluation a hn)
  opened a listener hm :=
    ⟨Nat.lt_succ_of_lt (h.opened a listener hm).1, Nat.lt_succ_of_lt (h.opened a listener hm).2⟩
  unique := h.unique
  roundTrip a listener hl := by
    by_cases hae : a = e.session.address
    · simp only [roundTrip?, hae, Function.update_self, Option.bind_some, hp] at hl
      cases hl
    · simp only [roundTrip?, Function.update_of_ne hae] at hl
      exact h.roundTrip a listener hl
  published := h.published
  inbox listener hl := Nat.lt_succ_of_lt (h.inbox listener hl)
  nodup := h.nodup

/-- A new round trip gets a number of its own. -/
theorem subscribe (h : t.Numbered) {a : CorrelationId} {e : Evaluation} (command : String)
    (resume : String → Dialogue String) (he : t.evaluations a = some e) :
    Numbered { t.turn a e (.subscribed t.minted command resume) with
      minted := t.minted + 1
      inboxes := t.minted :: t.inboxes
      history := .opened a t.minted :: t.history } where
  evaluation b hn := Nat.lt_succ_of_lt (h.evaluation b (evaluations_turn_ne_none he b hn))
  opened b listener hm := by
    rcases List.mem_cons.mp hm with heq | hm
    · cases heq
      exact ⟨Nat.lt_succ_self _, Nat.lt_succ_of_lt (h.evaluation a (by simp [he]))⟩
    · exact ⟨Nat.lt_succ_of_lt (h.opened b listener hm).1,
        Nat.lt_succ_of_lt (h.opened b listener hm).2⟩
  unique b c listener hb hc := by
    rcases List.mem_cons.mp hb with heq | hb
    · cases heq
      rcases List.mem_cons.mp hc with heq | hc
      · cases heq
        rfl
      · exact absurd (h.opened c _ hc).1 (Nat.lt_irrefl _)
    · rcases List.mem_cons.mp hc with heq | hc
      · cases heq
        exact absurd (h.opened b _ hb).1 (Nat.lt_irrefl _)
      · exact h.unique b c listener hb hc
  roundTrip b listener hl := by
    change (t.turn a e (.subscribed t.minted command resume)).roundTrip? b = _ at hl
    rw [roundTrip?_turn] at hl
    by_cases hba : b = a
    · subst hba
      rw [Function.update_self] at hl
      cases hl
      exact List.mem_cons_self
    · rw [Function.update_of_ne hba] at hl
      exact List.mem_cons_of_mem _ (h.roundTrip b listener hl)
  published b listener hl := by
    rcases hl.of_cons with hl | ⟨c, hc⟩
    · exact List.mem_cons_of_mem _ (h.published b listener hl)
    · cases hc
  inbox listener hl := by
    rcases List.mem_cons.mp hl with rfl | hl
    · exact Nat.lt_succ_self _
    · exact Nat.lt_succ_of_lt (h.inbox listener hl)
  nodup := List.nodup_cons.mpr ⟨fun hm => Nat.lt_irrefl _ (h.inbox _ hm), h.nodup⟩

theorem step (h : t.Numbered) (hs : t.Step t') : t'.Numbered := by
  have opened {o : Occurrence} (ho : ∀ a listener, .opened a listener ≠ o) (a : CorrelationId)
      (listener : Nat) (hm : .opened a listener ∈ o :: t.history) :
      .opened a listener ∈ t.history := List.mem_of_ne_of_mem (ho a listener) hm
  have published {o : Occurrence} (ho : ∀ a listener command, o ≠ .published a listener command)
      (a : CorrelationId) (listener : Nat) (hl : Published (o :: t.history) a listener) :
      Published t.history a listener ∨ t.roundTrip? a = some listener :=
    .inl (hl.of_cons.resolve_right fun ⟨command, hc⟩ => ho _ _ _ hc)
  cases hs with
  | quiet hm hu =>
      exact h.of_le hm (fun _ => id) (fun _ _ => id) (.refl _) (fun _ => id) (fun _ _ => id)
        fun _ _ => .inl
  | enroll ha hp => exact h.enroll ha hp
  | fail he hl hp =>
      exact h.of_le (Nat.le_refl _) (evaluations_turn_ne_none he) (roundTrip?_of_turn he (.inr hl))
        (.refl _) (fun _ => id) (fun _ _ => id) fun _ _ => .inl
  | subscribe he hp => exact h.subscribe _ _ he
  | @publish a e listener command resume he hp =>
      refine h.of_le (Nat.le_refl _) (evaluations_turn_ne_none he)
        (roundTrip?_of_turn he (.inr (by rw [hp]; rfl))) (.refl _) (fun _ => List.mem_cons_of_mem _)
        (opened (by simp)) fun b other hb => ?_
      -- what is published now belongs to the round trip that the evaluation is in
      rcases hb.of_cons with hb | ⟨c, hc⟩
      · exact .inl hb
      · cases hc
        exact .inr (by rw [roundTrip?_of_phase he, hp]; rfl)
  | receive he hp hr =>
      exact h.of_le (Nat.le_refl _) (evaluations_turn_ne_none he)
        (roundTrip?_of_turn he (.inr (by rw [hp]; rfl))) (.refl _) (fun _ => List.mem_cons_of_mem _)
        (opened (by simp)) (published (by simp))
  | @close a e listener next he hp =>
      have hn : (next.elim Phase.gone Phase.talking).listener? = none := by cases next <;> rfl
      exact h.of_le (Nat.le_refl _) (evaluations_turn_ne_none he) (roundTrip?_of_turn he (.inl hn))
        List.erase_sublist (fun _ => id) (fun _ _ => id) fun _ _ => .inl
  | fire hu =>
      exact h.of_le (Nat.le_refl _) (fun _ => id) (fun _ _ => id) (.refl _)
        (fun _ => List.mem_cons_of_mem _) (opened (by simp)) (published (by simp))
  | take hu hi hr =>
      exact h.of_le (Nat.le_refl _) (fun _ => id) (fun _ _ => id) (.refl _)
        (fun _ => List.mem_cons_of_mem _) (opened (by simp)) (published (by simp))

end Numbered

end Traffic

end ChatBot
