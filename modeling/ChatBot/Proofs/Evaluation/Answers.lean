import ChatBot.Proofs.Evaluation.Numbers

/-!
# Replies answer the commands that are awaited

All round trips of an evaluation share its address, so the address of a message does not tell which
of them it answers.  It goes to the inbox that listens when it is fired, and this is the one whose
command is unanswered, as long as every command is answered once and not beforehand.

* `AnsweredOnce` says that of a history.
* `Phase.Awaits`: an evaluation with an unanswered command is still in the round trip of that
  command, or has failed.
* `Traffic.Sourced`: what is under way, taken or returned was sent to the inbox that it is for.
  `Traffic.Sourced.step` has every step keep it.
-/

namespace ChatBot

/-! ### Answers -/

/-- A message to the evaluation at `a` was sent by a fire, as the answer to `answered`. -/
def Sent (history : List Occurrence) (fire : Nat) (a : CorrelationId) (reply : Message)
    (answered : Option Nat) : Prop :=
  ∃ payload, .fired fire CoreEvent.onMessageSent.name payload answered ∈ history ∧
    Payload.message? payload = some reply ∧ reply.address = .internal a

/-- A round trip of the evaluation at `a` has published its command, and nobody has answered. -/
def Pending (history : List Occurrence) (a : CorrelationId) (listener : Nat) : Prop :=
  Published history a listener ∧ ∀ fire reply, ¬ Sent history fire a reply (some listener)

/-- Whatever is sent to the evaluation at `a` answers one of its commands, after it was published
and for the first time. -/
def AnsweredOnce (a : CorrelationId) : List Occurrence → Prop
  | [] => True
  | .fired _ event payload answered :: past =>
    (event = CoreEvent.onMessageSent.name →
      (∃ reply, Payload.message? payload = some reply ∧ reply.address = .internal a) →
      ∃ listener, answered = some listener ∧ Pending past a listener) ∧ AnsweredOnce a past
  | _ :: past => AnsweredOnce a past

/-- A message that a fire sent to the evaluation at `a` answers the command of the round trip
`listener`, provided that all is answered once. -/
def Meant (history : List Occurrence) (fire listener : Nat) (a : CorrelationId) (reply : Message) :
    Prop :=
  ∃ answered, Sent history fire a reply answered ∧
    (AnsweredOnce a history → answered = some listener)

section
variable {history : List Occurrence} {o : Occurrence} {a : CorrelationId} {fire listener : Nat}
  {reply : Message} {answered : Option Nat}

theorem AnsweredOnce.of_cons (h : AnsweredOnce a (o :: history)) : AnsweredOnce a history := by
  cases o with
  | fired fire event payload answered => exact h.2
  | taken | opened | published | returned => exact h

theorem AnsweredOnce.of_suffix {past : List Occurrence} (h : AnsweredOnce a history)
    (hp : past <:+ history) : AnsweredOnce a past := by
  obtain ⟨since, rfl⟩ := hp
  induction since with
  | nil => exact h
  | cons o since ih => exact ih h.of_cons

theorem Sent.cons (h : Sent history fire a reply answered) :
    Sent (o :: history) fire a reply answered := by
  obtain ⟨payload, hm, hp⟩ := h
  exact ⟨payload, List.mem_cons_of_mem _ hm, hp⟩

theorem Meant.cons (h : Meant history fire listener a reply) :
    Meant (o :: history) fire listener a reply := by
  obtain ⟨answered, hs, ha⟩ := h
  exact ⟨answered, hs.cons, fun ho => ha ho.of_cons⟩

/-- What is pending was pending before, or is published just now. -/
theorem Pending.of_cons (h : Pending (o :: history) a listener) :
    Pending history a listener ∨ ∃ command, o = .published a listener command := by
  obtain ⟨hp, hn⟩ := h
  rcases hp.of_cons with hp | hc
  · exact .inl ⟨hp, fun fire reply hs => hn fire reply hs.cons⟩
  · exact .inr hc

end

/-! ### Where replies come from -/

/-- Where an evaluation stands if a round trip of it is left without an answer: this is the round
trip that it is in, or there is nothing more to come. -/
def Phase.Awaits (p : Phase) (listener : Nat) : Prop :=
  (∃ command resume, p = .waiting listener command resume) ∨
    p.IsFailing ∧ (p.listener? = none ∨ p.listener? = some listener)

theorem Phase.Awaits.eq {p : Phase} {listener other : Nat} (h : p.Awaits listener)
    (ho : p.listener? = some other) : other = listener := by
  rcases h with ⟨command, resume, rfl⟩ | ⟨-, hl | hl⟩
  · cases ho
    rfl
  · rw [hl] at ho
    cases ho
  · rw [hl] at ho
    cases ho
    rfl

theorem Phase.Awaits.fail {p p' : Phase} {listener : Nat} (h : p.Awaits listener)
    (hl : p'.listener? = p.listener?) (hp : p'.IsFailing) : p'.Awaits listener := by
  refine .inr ⟨hp, ?_⟩
  rw [hl]
  rcases h with ⟨command, resume, rfl⟩ | ⟨-, hl⟩
  · exact .inr rfl
  · exact hl

/-- Where a command is still to be published, there is none without an answer. -/
theorem Phase.not_awaits_ask (command : String) (resume : String → Dialogue String)
    (listener : Nat) : ¬ (Phase.talking (.ask command resume)).Awaits listener := by
  rintro (⟨c, r, hc⟩ | ⟨hf, -⟩)
  · cases hc
  · exact hf

theorem Phase.not_awaits_subscribed (own : Nat) (command : String)
    (resume : String → Dialogue String) (listener : Nat) :
    ¬ (Phase.subscribed own command resume).Awaits listener := by
  rintro (⟨c, r, hc⟩ | ⟨hf, -⟩)
  · cases hc
  · exact hf

/-- A round trip that is left without an answer comes to nothing. -/
theorem Phase.Awaits.close {own listener : Nat} {next : Option (Dialogue String)}
    (h : (Phase.leaving own next).Awaits listener) :
    (next.elim Phase.gone Phase.talking).Awaits listener := by
  rcases h with ⟨c, r, hc⟩ | ⟨hf, -⟩
  · cases hc
  · cases next with
    | none => exact .inr ⟨trivial, .inl rfl⟩
    | some d =>
        cases d with
        | fail error => exact .inr ⟨trivial, .inl rfl⟩
        | done text | ask c r => exact hf.elim

/-- The replies that are under way, taken or returned were sent to the inbox that they are for. -/
structure Traffic.Sourced (t : Traffic) : Prop where
  underway : ∀ d ∈ t.underway, .opened d.address d.listener ∈ t.history ∧
    Meant t.history d.fire d.listener d.address d.reply
  taken : ∀ fire listener reply, .taken fire listener reply ∈ t.history →
    ∃ a, .opened a listener ∈ t.history ∧ Meant t.history fire listener a reply
  replies : ∀ listener reply, t.replies.lookup listener = some reply →
    ∃ fire, .taken fire listener reply ∈ t.history
  returned : ∀ a listener reply, .returned a listener reply ∈ t.history →
    .opened a listener ∈ t.history ∧ ∃ fire, .taken fire listener reply ∈ t.history
  settled : ∀ a e, t.evaluations a = some e → AnsweredOnce a t.history →
    ∀ listener, Pending t.history a listener → e.phase.Awaits listener

theorem lookup_filter_ne (replies : List (Nat × Message)) (listener other : Nat) :
    (replies.filter (·.1 != listener)).lookup other =
      if other = listener then none else replies.lookup other := by
  induction replies with
  | nil => simp
  | cons r rs ih =>
      obtain ⟨l, m⟩ := r
      by_cases hl : l = listener
      · subst hl
        rw [List.filter_cons_of_neg (by simp), ih, List.lookup_cons]
        by_cases ho : other = l
        · simp only [ho, if_true]
        · simp only [ho, if_false, beq_false_of_ne ho]
      · rw [List.filter_cons_of_pos (by simpa using hl), List.lookup_cons, List.lookup_cons, ih]
        by_cases ho : other = l
        · simp only [ho, hl, BEq.rfl, if_false]
        · simp only [beq_false_of_ne ho]

namespace Traffic

variable {t t' : Traffic}

theorem delivery?_eq_some {event : String} {payload : Payload} {d : Delivery}
    (hd : t.delivery? event payload = some d) :
    event = CoreEvent.onMessageSent.name ∧ d.fire = t.fires ∧
      Payload.message? payload = some d.reply ∧ d.reply.address = .internal d.address ∧
      t.roundTrip? d.address = some d.listener := by
  rw [delivery?] at hd
  split at hd
  · rename_i he
    split at hd
    · rename_i reply hm
      split at hd
      · rename_i a ha
        obtain ⟨listener, hl, rfl⟩ := Option.map_eq_some_iff.mp hd
        exact ⟨he, rfl, hm, ha, hl⟩
      · cases hd
    · cases hd
  · cases hd

namespace Sourced

/-- What was true of messages stays true when more happens. -/
theorem underway_cons (h : t.Sourced) (o : Occurrence) : ∀ d ∈ t.underway,
    .opened d.address d.listener ∈ o :: t.history ∧
      Meant (o :: t.history) d.fire d.listener d.address d.reply :=
  fun d hd => ⟨List.mem_cons_of_mem _ (h.underway d hd).1, (h.underway d hd).2.cons⟩

theorem taken_cons (h : t.Sourced) {o : Occurrence}
    (ho : ∀ fire listener reply, o ≠ .taken fire listener reply) :
    ∀ fire listener reply, .taken fire listener reply ∈ o :: t.history →
      ∃ a, .opened a listener ∈ o :: t.history ∧ Meant (o :: t.history) fire listener a reply := by
  intro fire listener reply hm
  have hm := List.mem_of_ne_of_mem (ho _ _ _).symm hm
  obtain ⟨a, ha, hs⟩ := h.taken fire listener reply hm
  exact ⟨a, List.mem_cons_of_mem _ ha, hs.cons⟩

theorem replies_cons (h : t.Sourced) (o : Occurrence) : ∀ listener reply,
    t.replies.lookup listener = some reply → ∃ fire, .taken fire listener reply ∈ o :: t.history :=
  fun listener reply hl => (h.replies listener reply hl).imp fun _ => List.mem_cons_of_mem _

theorem returned_cons (h : t.Sourced) {o : Occurrence}
    (ho : ∀ a listener reply, o ≠ .returned a listener reply) :
    ∀ a listener reply, .returned a listener reply ∈ o :: t.history →
      .opened a listener ∈ o :: t.history ∧
        ∃ fire, .taken fire listener reply ∈ o :: t.history := by
  intro a listener reply hm
  have hm := List.mem_of_ne_of_mem (ho _ _ _).symm hm
  obtain ⟨ha, fire, hf⟩ := h.returned a listener reply hm
  exact ⟨List.mem_cons_of_mem _ ha, fire, List.mem_cons_of_mem _ hf⟩

theorem settled_cons (h : t.Sourced) {o : Occurrence}
    (ho : ∀ a listener command, o ≠ .published a listener command) :
    ∀ a e, t.evaluations a = some e → AnsweredOnce a (o :: t.history) →
      ∀ listener, Pending (o :: t.history) a listener → e.phase.Awaits listener := by
  intro a e he hao listener hp
  rcases hp.of_cons with hp | ⟨command, hc⟩
  · exact h.settled a e he hao.of_cons listener hp
  · exact absurd hc (ho _ _ _)

/-- A message that is fired goes to the inbox that listens, and answers its command. -/
theorem delivery (h : t.Sourced) (hn : t.Numbered) {event : String} {payload : Payload}
    {answered : Option Nat} {d : Delivery} (hd : t.delivery? event payload = some d) :
    .opened d.address d.listener ∈ t.history ∧
      Meant (.fired t.fires event payload answered :: t.history)
        d.fire d.listener d.address d.reply := by
  obtain ⟨rfl, hf, hm, ha, hr⟩ := delivery?_eq_some hd
  refine ⟨hn.roundTrip _ _ hr, answered, ⟨payload, hf ▸ List.mem_cons_self, hm, ha⟩, fun hao => ?_⟩
  -- the command that is answered was pending, and only that of the present round trip can be
  obtain ⟨listener, rfl, hp⟩ := hao.1 rfl ⟨d.reply, hm, ha⟩
  obtain ⟨e, he, hl⟩ := Option.bind_eq_some_iff.mp hr
  rw [(h.settled d.address e he hao.of_cons listener hp).eq hl]

/-- What an inbox took was meant for the evaluation that opened it. -/
theorem meant (h : t.Sourced) (hn : t.Numbered) {a : CorrelationId} {fire listener : Nat}
    {reply : Message} (ha : .opened a listener ∈ t.history)
    (ht : .taken fire listener reply ∈ t.history) : Meant t.history fire listener a reply := by
  obtain ⟨b, hb, hm⟩ := h.taken fire listener reply ht
  rwa [hn.unique b a listener hb ha] at hm

/-- Where there is a reply in the inbox, the command of the round trip has its answer. -/
theorem not_pending (h : t.Sourced) (hn : t.Numbered) {a : CorrelationId} {listener : Nat}
    {reply : Message} (hl : t.roundTrip? a = some listener)
    (hr : t.replies.lookup listener = some reply) (hao : AnsweredOnce a t.history) :
    ¬ Pending t.history a listener := by
  intro hp
  obtain ⟨fire, ht⟩ := h.replies listener reply hr
  obtain ⟨answered, hs, ha⟩ := h.meant hn (hn.roundTrip a listener hl) ht
  obtain rfl := ha hao
  exact hp.2 fire reply hs

theorem step (h : t.Sourced) (hn : t.Numbered) (hs : t.Step t') : t'.Sourced := by
  cases hs with
  | quiet hm hu =>
      exact ⟨fun d hd => h.underway d (hu.subset hd), h.taken, h.replies, h.returned, h.settled⟩
  | @enroll e d ha hp =>
      refine ⟨h.underway, h.taken, h.replies, h.returned,
        Evaluation.forall_update (fun _ listener hl => ?_) fun b e' he' _ => h.settled b e' he'⟩
      -- nothing has been published at an address that is new
      have ho := (hn.opened _ listener (hn.published _ listener hl.1)).2
      rw [ha] at ho
      exact absurd ho (Nat.lt_irrefl _)
  | fail he hl hp =>
      exact ⟨h.underway, h.taken, h.replies, h.returned,
        Evaluation.forall_update
          (fun hao listener hl' => (h.settled _ _ he hao listener hl').fail hl hp)
          fun b e' he' _ => h.settled b e' he'⟩
  | @subscribe a e command resume he hp =>
      have hset := h.settled_cons (o := .opened a t.minted) (by simp)
      refine ⟨h.underway_cons _, h.taken_cons (by simp), h.replies_cons _,
        h.returned_cons (by simp),
        Evaluation.forall_update (fun hao listener hl => ?_) fun b e' he' _ => hset b e' he'⟩
      have ha := hset a e he hao listener hl
      rw [hp] at ha
      exact absurd ha (Phase.not_awaits_ask _ _ _)
  | @publish a e listener command resume he hp =>
      refine ⟨h.underway_cons _, h.taken_cons (by simp), h.replies_cons _,
        h.returned_cons (by simp),
        Evaluation.forall_update (fun hao other hl => ?_) fun b e' he' hb hao other hl => ?_⟩
      · rcases hl.of_cons with hl | ⟨c, hc⟩
        · have ha := h.settled a e he hao.of_cons other hl
          rw [hp] at ha
          exact absurd ha (Phase.not_awaits_subscribed _ _ _ _)
        · cases hc
          exact .inl ⟨command, resume, rfl⟩
      · rcases hl.of_cons with hl | ⟨c, hc⟩
        · exact h.settled b e' he' hao.of_cons other hl
        · cases hc
          exact absurd rfl hb
  | @receive a e listener command resume reply he hp hr =>
      have hl : t.roundTrip? a = some listener := by
        rw [roundTrip?_of_phase he, hp]
        rfl
      obtain ⟨fire, hf⟩ := h.replies listener reply hr
      have hset := h.settled_cons (o := .returned a listener reply) (by simp)
      refine ⟨h.underway_cons _, h.taken_cons (by simp), h.replies_cons _, fun b l m hm => ?_,
        Evaluation.forall_update (fun hao other hp' => ?_) fun b e' he' _ => hset b e' he'⟩
      · rcases List.mem_cons.mp hm with heq | hm
        · cases heq
          exact ⟨List.mem_cons_of_mem _ (hn.roundTrip a listener hl), fire,
            List.mem_cons_of_mem _ hf⟩
        · obtain ⟨ho, k, hk⟩ := h.returned b l m hm
          exact ⟨List.mem_cons_of_mem _ ho, k, List.mem_cons_of_mem _ hk⟩
      -- the command of this round trip has been answered: by the reply that is now returned
      · have ha := hset a e he hao other hp'
        rw [hp] at ha
        obtain rfl := ha.eq rfl
        rcases hp'.of_cons with hp' | ⟨c, hc⟩
        · exact absurd hp' (h.not_pending hn hl hr hao.of_cons)
        · cases hc
  | @close a e listener next he hp =>
      refine ⟨h.underway, h.taken, fun l m hl => ?_, h.returned,
        Evaluation.forall_update (fun hao other hp' => ?_) fun b e' he' _ => h.settled b e' he'⟩
      · rw [lookup_filter_ne] at hl
        split at hl
        · cases hl
        · exact h.replies l m hl
      · have ha := h.settled a e he hao other hp'
        rw [hp] at ha
        exact ha.close
  | @fire event payload answered underway hu =>
      refine ⟨fun d hd => ?_, h.taken_cons (by simp), h.replies_cons _, h.returned_cons (by simp),
        h.settled_cons (by simp)⟩
      rcases List.mem_append.mp (hu.subset hd) with hd | hd
      · obtain ⟨ho, hm⟩ := h.delivery hn (Option.mem_toList.mp hd)
        exact ⟨List.mem_cons_of_mem _ ho, hm⟩
      · exact h.underway_cons _ d hd
  | @take d underway hu hi hr =>
      refine ⟨fun d' hd' => ?_, fun k l m hm => ?_, fun l m hl => ?_, h.returned_cons (by simp),
        h.settled_cons (by simp)⟩
      · exact h.underway_cons _ d' (hu.symm.subset (List.mem_cons_of_mem _ hd'))
      · rcases List.mem_cons.mp hm with heq | hm
        · cases heq
          exact ⟨d.address, h.underway_cons _ d (hu.symm.subset List.mem_cons_self)⟩
        · obtain ⟨a, ha, hs⟩ := h.taken k l m hm
          exact ⟨a, List.mem_cons_of_mem _ ha, hs.cons⟩
      · rw [List.lookup_cons] at hl
        split at hl
        · rename_i heq
          cases hl
          exact ⟨d.fire, eq_of_beq heq ▸ List.mem_cons_self⟩
        · exact h.replies_cons _ l m hl

end Sourced

end Traffic

end ChatBot
