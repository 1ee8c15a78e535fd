import ChatBot.Proofs.Bot.Order

/-!
# The outbox keeps its promises

Messages are put into the outbox by anyone at any time; senders come and go, are asked to stop, and
take messages out one at a time.  The receiving end goes from the outbox to one sender and back, so
there is one sender at a time, and what one of them leaves is what the next one finds.

* `Chronicle.Ledger` is the invariant: who has the receiving end, and how what was put in, taken
  out, given to the transport and announced go together.
* `Chronicle.Run.ledger`: it holds in every run.
* `Chronicle.outbox_in_order`: what this means for what is delivered.
-/

namespace ChatBot

/-- The handover that a message leads to when it is taken out of the outbox.  Only messages to a
channel outside are given to the transport. -/
def handover? (p : Message × Bool) : Option Handover :=
  match p.1.address with
  | .external channel => if channel = "" then none else some ⟨p.1.outward, p.2⟩
  | .internal _ | .unset => none

/-- What is announced of a message that is taken out of the outbox: an internal message as it is,
and one to a channel outside as the transport took it, if it did. -/
def announcement? (p : Message × Bool) : Option Message :=
  match p.1.address with
  | .internal _ => some p.1
  | .external channel => if channel ≠ "" ∧ p.2 = true then some p.1.outward else none
  | .unset => none

theorem delivery_of_unset {m : Message} (hm : m.address.isUnset = true) (taken : Bool) :
    handover? (m, taken) = none ∧ announcement? (m, taken) = none := by
  rw [handover?, announcement?]
  dsimp only
  cases ha : m.address with
  | unset => exact ⟨rfl, rfl⟩
  | internal a => rw [ha] at hm; cases hm
  | external channel =>
      rw [ha, Address.isUnset, String.isEmpty_iff] at hm
      simp [hm]

theorem delivery_of_internal {m : Message} (hm : m.isInternal = true) (taken : Bool) :
    handover? (m, taken) = none ∧ announcement? (m, taken) = some m := by
  rw [handover?, announcement?]
  dsimp only
  cases ha : m.address with
  | internal a => exact ⟨rfl, rfl⟩
  | _ => rw [Message.isInternal, ha] at hm; cases hm

theorem delivery_of_external {m : Message} (hu : m.address.isUnset = false)
    (hi : m.isInternal = false) (taken : Bool) :
    handover? (m, taken) = some ⟨m.outward, taken⟩ ∧
      announcement? (m, taken) = if taken then some m.outward else none := by
  rw [handover?, announcement?]
  dsimp only
  cases ha : m.address with
  | unset => rw [ha] at hu; cases hu
  | internal a => rw [Message.isInternal, ha] at hi; cases hi
  | external channel =>
      rw [ha, Address.isUnset, ← Bool.not_eq_true, String.isEmpty_iff] at hu
      simp [hu]

/-- What the transport is given is a text. -/
theorem Message.outward_eq (m : Message) :
    m.outward = { m with body := .text (match m.body with
      | .text text => text
      | .error reason => m.sender ++ "-exception: " ++ reason) } := by
  obtain ⟨body, sender, recipient, address, isInGroup, sendToAll, nickname⟩ := m
  cases body <;> rfl

/-- A sender that has the receiving end of the outbox. -/
def SenderState.loop? : SenderState → Option SenderState
  | .fresh => none
  | .listening since => some (.listening since)
  | .sending since h time => some (.sending since h time)

def Errand.loop? (e : Errand) : Option SenderState := e.sender?.bind SenderState.loop?

/-- What is dropped leaves the outbox alone, unless it has the receiving end. -/
theorem Stage.drop_cases (s : Stage) {a : Activity} (ha : a.IsAttended) :
    ((Errand.ofActivity a).loop? = none ∧ s.Quiet (s.drop a) []) ∨
    ∃ state, (Errand.ofActivity a).loop? = some state ∧
      (s.drop a).bot.outbox.receiver = .lost ∧ (s.drop a).bot.handed = s.bot.handed := by
  cases a with
  | sender number state =>
      cases state with
      | fresh => exact .inl ⟨rfl, .refl s⟩
      | _ => exact .inr ⟨_, rfl, rfl, rfl⟩
  | job recipient work =>
      cases work with
      | asking session listener => exact .inl ⟨rfl, s.quiet_closeInbox listener session.address⟩
      | _ => exact .inl ⟨rfl, .refl s⟩
  | launched | script | ticker => exact ha.elim

/-- The message that is to be announced when the transport is done with it. -/
def SenderState.inTransit : SenderState → List Message
  | .sending _ h _ => if h.taken then [h.message] else []
  | .fresh | .listening _ => []

namespace Chronicle

variable {χ χ' : Chronicle} {loop : Option SenderState}

/-- The senders that have the receiving end of the outbox. -/
def loops (χ : Chronicle) : List SenderState := χ.tasks.filterMap (·.2.loop?)

/-- The state of the outbox, as far as the receiving end is still there.  What was put in is what
was taken out and what is queued, and the rest follows from what was taken out. -/
structure Ledger (χ : Chronicle) (loop : Option SenderState) : Prop where
  loops : χ.loops = loop.toList
  taken : χ.stage.bot.outbox.receiver = .taken ↔ loop.isSome = true
  queued : χ.stage.bot.outbox.receiver ≠ .lost →
    χ.posted = χ.dequeued.map (·.1) ++ χ.stage.bot.outbox.queue
  handed : χ.stage.bot.handed = χ.dequeued.filterMap handover?
  announced : χ.stage.bot.outbox.receiver ≠ .lost →
    χ.announced.map (·.1) ++ loop.elim [] SenderState.inTransit = χ.dequeued.filterMap announcement?

/-- There is no more than one sender with the receiving end. -/
theorem Ledger.of_perm (h : Ledger χ loop) {state : SenderState} {others : List SenderState}
    (hp : χ.loops.Perm (state :: others)) : loop = some state ∧ others = [] := by
  rw [h.loops] at hp
  cases loop with
  | none => exact absurd hp (List.not_perm_nil_cons _ _)
  | some state' =>
      have hp := List.singleton_perm.mp hp
      simp only [List.cons.injEq] at hp
      exact ⟨congrArg some hp.1, hp.2.symm⟩

theorem eq_toList_of_perm {states : List SenderState} (h : states.Perm loop.toList) :
    states = loop.toList := by
  cases loop with
  | none => exact List.perm_nil.mp h
  | some state => exact List.perm_singleton.mp h

/-- Nothing is put in or taken out.  The receiving end may change hands, and what was in transit may
be announced. -/
theorem Ledger.turn (h : Ledger χ loop) {loop' : Option SenderState} (hl : χ'.loops = loop'.toList)
    (ht : χ'.stage.bot.outbox.receiver = .taken ↔ loop'.isSome = true)
    (hlost : χ'.stage.bot.outbox.receiver ≠ .lost → χ.stage.bot.outbox.receiver ≠ .lost)
    (hq : χ'.stage.bot.outbox.queue = χ.stage.bot.outbox.queue)
    (hh : χ'.stage.bot.handed = χ.stage.bot.handed) (hp : χ'.posted = χ.posted)
    (hd : χ'.dequeued = χ.dequeued)
    (ha : χ'.announced.map (·.1) ++ loop'.elim [] SenderState.inTransit =
      χ.announced.map (·.1) ++ loop.elim [] SenderState.inTransit) : Ledger χ' loop' where
  loops := hl
  taken := ht
  queued hn := by rw [hp, hd, hq]; exact h.queued (hlost hn)
  handed := by rw [hh, hd]; exact h.handed
  announced hn := by rw [ha, hd]; exact h.announced (hlost hn)

/-- What has nothing to do with the outbox. -/
theorem Ledger.of_calm (h : Ledger χ loop) (hl : χ'.loops.Perm χ.loops)
    (ho : χ'.stage.bot.outbox.queue = χ.stage.bot.outbox.queue ∧
      χ'.stage.bot.outbox.receiver = χ.stage.bot.outbox.receiver)
    (hh : χ'.stage.bot.handed = χ.stage.bot.handed)
    (hr : χ'.posted = χ.posted ∧ χ'.dequeued = χ.dequeued ∧ χ'.announced = χ.announced) :
    Ledger χ' loop := by
  obtain ⟨hq, ht⟩ := ho
  obtain ⟨hp, hd, ha⟩ := hr
  refine h.turn (eq_toList_of_perm (h.loops ▸ hl)) ?_ (fun hn => ht ▸ hn) hq hh hp hd ?_
  · rw [ht]
    exact h.taken
  · rw [ha]

/-! ### Tasks -/

theorem loop?_of_sender? {e : Errand} (he : e.sender? = none) : e.loop? = none := by
  rw [Errand.loop?, he]
  rfl

theorem loops_newcomers {s : Stage} {ts : List Activity}
    (hn : ∀ a ∈ ts, (Errand.ofActivity a).loop? = none) :
    (s.newcomers ts).filterMap (·.2.loop?) = [] := by
  rw [List.filterMap_eq_nil_iff]
  intro t ht
  obtain ⟨-, -, a, ha, he⟩ := Stage.mem_newcomers ht
  rw [he, hn a ha]

theorem loop?_launches (ls : List (Launch Handler)) :
    ∀ a ∈ ls.map Launch.activity, (Errand.ofActivity a).loop? = none := by
  intro a ha
  obtain ⟨l, -, rfl⟩ := List.mem_map.mp ha
  rfl

/-- What does not go through tasks leaves the senders alone. -/
theorem loops_pass {s : Stage} {ts : List Activity} (hs : χ.stage.Spawns s ts)
    (hn : ∀ a ∈ ts, (Errand.ofActivity a).loop? = none) : (χ.pass s).loops.Perm χ.loops := by
  have hp := hs.scheduled.filterMap (·.2.loop?)
  rw [List.filterMap_append, loops_newcomers hn, List.append_nil] at hp
  change ((s.scheduled ++ χ.running).filterMap _).Perm
    ((χ.stage.scheduled ++ χ.running).filterMap _)
  rw [List.filterMap_append, List.filterMap_append]
  exact hp.append_right _

/-- When a task goes on, the other senders stay where they are. -/
theorem loops_advance {id : Nat} {e : Errand} {rest : List (Nat × Errand)} {o : Stride}
    {ls : List (Launch Handler)} (hr : χ.running = (id, e) :: rest)
    (ho : χ.stage.Spawns o.stage (ls.map Launch.activity)) :
    ∃ others, χ.loops.Perm (e.loop?.toList ++ others) ∧
      (χ.advance id rest o).loops.Perm ((o.next.bind Errand.loop?).toList ++ others) := by
  obtain ⟨hp, hp'⟩ := tasks_advance hr ho
  refine ⟨(χ.stage.scheduled ++ rest).filterMap (·.2.loop?), ?_, ?_⟩
  · refine (hp.filterMap _).trans (List.Perm.of_eq ?_)
    rw [List.filterMap_cons]
    cases e.loop? <;> rfl
  · refine (hp'.filterMap _).trans (List.Perm.of_eq ?_)
    rw [List.filterMap_append, List.filterMap_append, loops_newcomers (loop?_launches ls),
      List.append_nil]
    congr 1
    cases o.next with
    | none => rfl
    | some e' => cases he : e'.loop? <;> simp [he]

/-! ### Deeds -/

section Deeds

variable {id : Nat} {rest : List (Nat × Errand)} {o : Stride}

@[simp] theorem stage_advance : (χ.advance id rest o).stage = o.stage := rfl

theorem posted_advance :
    (χ.advance id rest o).posted = χ.posted ++ o.deeds.filterMap Deed.posted? := by
  rw [posted, advance, List.filterMap_append, List.filterMap_map]
  rfl

theorem dequeued_advance :
    (χ.advance id rest o).dequeued = χ.dequeued ++ o.deeds.filterMap Deed.dequeued? := by
  rw [dequeued, advance, List.filterMap_append, List.filterMap_map]
  rfl

theorem announced_advance :
    (χ.advance id rest o).announced = χ.announced ++ o.deeds.filterMap Deed.announced? := by
  rw [announced, advance, List.filterMap_append, List.filterMap_map]
  rfl

theorem posted_advance_of_nil (h : o.deeds.filterMap Deed.posted? = []) :
    (χ.advance id rest o).posted = χ.posted := by
  rw [posted_advance, h, List.append_nil]

theorem dequeued_advance_of_nil (h : o.deeds.filterMap Deed.dequeued? = []) :
    (χ.advance id rest o).dequeued = χ.dequeued := by
  rw [dequeued_advance, h, List.append_nil]

theorem announced_advance_of_nil (h : o.deeds.filterMap Deed.announced? = []) :
    (χ.advance id rest o).announced = χ.announced := by
  rw [announced_advance, h, List.append_nil]

theorem deeds_of_isInner (h : ∀ d ∈ o.deeds, d.IsInner) :
    o.deeds.filterMap Deed.posted? = [] ∧ o.deeds.filterMap Deed.dequeued? = [] ∧
      o.deeds.filterMap Deed.announced? = [] := by
  simp only [List.filterMap_eq_nil_iff]
  refine ⟨fun d hd => ?_, fun d hd => ?_, fun d hd => ?_⟩
  all_goals
    have hi := h d hd
    cases d with
    | ran | began | published => rfl
    | posted | dequeued | announced => exact hi.elim

end Deeds

/-! ### Steps of tasks -/

/-- A message that is posted is queued behind all others. -/
theorem outbox_post {s : Stage} (m : Message) :
    (s.post m).bot.outbox.receiver = s.bot.outbox.receiver ∧
    (s.post m).bot.handed = s.bot.handed ∧
    (s.bot.outbox.receiver ≠ .lost →
      (s.post m).bot.outbox.queue = s.bot.outbox.queue ++ [m]) := by
  change ((if s.bot.outbox.receiver = .lost then s.bot else _ : Bot)).outbox.receiver = _ ∧
    ((if s.bot.outbox.receiver = .lost then s.bot else _ : Bot)).handed = _ ∧
    (_ → ((if s.bot.outbox.receiver = .lost then s.bot else _ : Bot)).outbox.queue = _)
  split
  · rename_i hl
    exact ⟨rfl, rfl, fun h => absurd hl h⟩
  · exact ⟨rfl, rfl, fun _ => rfl⟩

/-- A message is posted, and that is all. -/
theorem Ledger.post (h : Ledger χ loop) (m : Message) (hl : χ'.loops.Perm χ.loops)
    (hs : χ'.stage.bot = (χ.stage.post m).bot) (hp : χ'.posted = χ.posted ++ [m])
    (hd : χ'.dequeued = χ.dequeued) (ha : χ'.announced = χ.announced) : Ledger χ' loop := by
  obtain ⟨hr, hh, hq⟩ := outbox_post (s := χ.stage) m
  refine
    { loops := eq_toList_of_perm (h.loops ▸ hl)
      taken := by rw [hs, hr]; exact h.taken
      queued := fun hlost => ?_
      handed := by rw [hs, hh, hd]; exact h.handed
      announced := by rw [hs, hr, hd, ha]; exact h.announced }
  rw [hs, hr] at hlost
  rw [hs, hp, hd, hq hlost, h.queued hlost, List.append_assoc]

/-- The first message is taken out, and goes where its address leads. -/
theorem Ledger.dequeue {since : Nat} (h : Ledger χ (some (.listening since))) {next : SenderState}
    {m : Message} {rest : List Message} (taken : Bool) (hl : χ'.loops = [next])
    (hq : χ.stage.bot.outbox.queue = m :: rest) (hq' : χ'.stage.bot.outbox.queue = rest)
    (hr : χ'.stage.bot.outbox.receiver = χ.stage.bot.outbox.receiver)
    (hh : χ'.stage.bot.handed = χ.stage.bot.handed ++ (handover? (m, taken)).toList)
    (hp : χ'.posted = χ.posted) (hd : χ'.dequeued = χ.dequeued ++ [(m, taken)])
    (ha : χ'.announced.map (·.1) ++ next.inTransit =
      χ.announced.map (·.1) ++ (announcement? (m, taken)).toList) :
    Ledger χ' (some next) where
  loops := hl
  taken := by rw [hr]; exact h.taken
  queued hlost := by
    rw [hr] at hlost
    rw [hp, h.queued hlost, hq, hd, hq', List.map_append, List.append_assoc]
    rfl
  handed := by
    rw [hh, h.handed, hd, List.filterMap_append]
    cases hv : handover? (m, taken) <;> simp [hv]
  announced hlost := by
    rw [hr] at hlost
    have hold := h.announced hlost
    rw [Option.elim_some, SenderState.inTransit, List.append_nil] at hold
    rw [Option.elim_some, ha, hold, hd, List.filterMap_append]
    cases hv : announcement? (m, taken) <;> simp [hv]

theorem announces_deed {s s' : Stage} {m : Message} {deed : Deed} (h : s.Announces m s' deed) :
    ∃ heard, deed = .announced m heard := by
  cases h with
  | heard => exact ⟨true, rfl⟩
  | unheard => exact ⟨false, rfl⟩

/-- A sender goes on. -/
theorem Ledger.serve (h : Ledger χ loop) {id : Nat} {number : Option Nat} {state : SenderState}
    {rest : List (Nat × Errand)} {o : Stride}
    (hr : χ.running = (id, .activity (.sender number state)) :: rest)
    (hs : state.Proceeds χ.stage number o) : ∃ loop', Ledger (χ.advance id rest o) loop' := by
  obtain ⟨ls, hf⟩ := hs.fires
  obtain ⟨others, hp, hp'⟩ := loops_advance hr hf.spawns
  cases hs with
  | refuse hfree =>
      have hq := Stage.quiet_endSender χ.stage number (.error .senderRunning)
      exact ⟨loop, h.of_calm (hp'.trans hp.symm) ⟨congrArg _ hq.outbox, congrArg _ hq.outbox⟩
        hq.handed ⟨posted_advance_of_nil rfl, dequeued_advance_of_nil rfl,
          announced_advance_of_nil rfl⟩⟩
  | take hfree =>
      obtain rfl : loop = none := by
        cases loop with
        | none => rfl
        | some state => exact absurd (hfree.symm.trans (h.taken.mpr rfl)) (by decide)
      obtain rfl : others = [] := by
        have hn := hp.symm
        rw [h.loops] at hn
        exact List.perm_nil.mp hn
      have hlost : χ.stage.bot.outbox.receiver ≠ .lost := by rw [hfree]; decide
      refine ⟨some (.listening χ.stage.bot.outbox.stops), h.turn (List.perm_singleton.mp hp')
        (iff_of_true rfl rfl) (fun _ => hlost) rfl rfl (posted_advance_of_nil rfl)
        (dequeued_advance_of_nil rfl) ?_⟩
      rw [announced_advance_of_nil rfl]
      rfl
  | @stop since hstopped =>
      obtain ⟨rfl, rfl⟩ := h.of_perm hp
      have htaken : χ.stage.bot.outbox.receiver = .taken := h.taken.mpr rfl
      have hlost : χ.stage.bot.outbox.receiver ≠ .lost := by rw [htaken]; decide
      have hq := Stage.quiet_endSender (χ.stage.withOutbox fun o => { o with receiver := .free })
        number (.ok ())
      have ho : (χ.advance id rest ⟨none, χ.stage.releaseOutbox number, []⟩).stage.bot.outbox =
          { χ.stage.bot.outbox with receiver := .free } := hq.outbox
      refine ⟨none, h.turn (List.perm_nil.mp hp') ?_ (fun _ => hlost) (by rw [ho]) hq.handed
        (posted_advance_of_nil rfl) (dequeued_advance_of_nil rfl) ?_⟩
      · rw [ho]
        exact iff_of_false (by rintro ⟨⟩) (by rintro ⟨⟩)
      · rw [announced_advance_of_nil rfl]
        rfl
  | discard hq hm =>
      obtain ⟨rfl, rfl⟩ := h.of_perm hp
      obtain ⟨hh, ha⟩ := delivery_of_unset hm false
      refine ⟨_, h.dequeue false (List.perm_singleton.mp hp') hq rfl rfl ?_
        (posted_advance_of_nil rfl) dequeued_advance ?_⟩
      · rw [hh]
        exact (List.append_nil _).symm
      · rw [announced_advance_of_nil rfl, ha]
        rfl
  | @announce since m queue s' deed hq hm hannounce =>
      obtain ⟨rfl, rfl⟩ := h.of_perm hp
      obtain ⟨hh, ha⟩ := delivery_of_internal hm false
      obtain ⟨ls, hquiet⟩ := Stage.quiet_announces hannounce
      obtain ⟨heard, rfl⟩ := announces_deed hannounce
      refine ⟨_, h.dequeue false (List.perm_singleton.mp hp') hq
        (congrArg Outbox.queue hquiet.outbox) (congrArg Outbox.receiver hquiet.outbox :) ?_
        (posted_advance_of_nil rfl) dequeued_advance ?_⟩
      · rw [hh]
        exact hquiet.handed.trans (List.append_nil _).symm
      · rw [announced_advance, ha, List.map_append, SenderState.inTransit, List.append_nil]
        rfl
  | @hand since m queue hq hu hi taken time =>
      obtain ⟨rfl, rfl⟩ := h.of_perm hp
      obtain ⟨hh, ha⟩ := delivery_of_external hu hi taken
      refine ⟨_, h.dequeue taken (List.perm_singleton.mp hp') hq rfl rfl ?_
        (posted_advance_of_nil rfl) dequeued_advance ?_⟩
      · rw [hh]
        rfl
      · rw [announced_advance_of_nil rfl, ha, SenderState.inTransit]
        cases taken <;> rfl
  | @lose since time handover ht =>
      obtain ⟨rfl, rfl⟩ := h.of_perm hp
      refine ⟨some (.listening since), h.turn (List.perm_singleton.mp hp') h.taken
        (fun hn => hn) rfl rfl (posted_advance_of_nil rfl) (dequeued_advance_of_nil rfl) ?_⟩
      rw [announced_advance_of_nil rfl]
      simp [SenderState.inTransit, ht]
  | @arrive since time handover s' deed ht hannounce =>
      obtain ⟨rfl, rfl⟩ := h.of_perm hp
      obtain ⟨ls, hquiet⟩ := Stage.quiet_announces hannounce
      obtain ⟨heard, rfl⟩ := announces_deed hannounce
      have ho : s'.bot.outbox = χ.stage.bot.outbox := hquiet.outbox
      refine ⟨some (.listening since), h.turn (List.perm_singleton.mp hp') ?_ (fun hn => ho ▸ hn)
        (congrArg Outbox.queue ho) hquiet.handed (posted_advance_of_nil rfl)
        (dequeued_advance_of_nil rfl) ?_⟩
      · rw [stage_advance, ho]
        exact h.taken
      · rw [announced_advance]
        simp [SenderState.inTransit, ht, Deed.announced?]

/-- A task goes on. -/
theorem Ledger.advance (h : Ledger χ loop) {id : Nat} {e : Errand} {rest : List (Nat × Errand)}
    {o : Stride} (hr : χ.running = (id, e) :: rest) (he : e.Proceeds χ.stage o) :
    ∃ loop', Ledger (χ.advance id rest o) loop' := by
  rcases he.cases with ⟨hsender, ⟨ls, hq⟩, hinner, hnext⟩ | ⟨recipient, result, rfl, rfl⟩ |
    ⟨number, state, rfl, hs⟩
  · obtain ⟨others, hp, hp'⟩ := loops_advance hr hq.spawns
    have hn : o.next.bind Errand.loop? = none := by
      rw [Option.bind_eq_none_iff]
      exact fun e' he' => loop?_of_sender? (hnext e' he')
    rw [loop?_of_sender? hsender] at hp
    rw [hn] at hp'
    obtain ⟨h₁, h₂, h₃⟩ := deeds_of_isInner hinner
    exact ⟨loop, h.of_calm (hp'.trans hp.symm) ⟨congrArg _ hq.outbox, congrArg _ hq.outbox⟩
      hq.handed ⟨posted_advance_of_nil h₁, dequeued_advance_of_nil h₂,
        announced_advance_of_nil h₃⟩⟩
  · have hf := Stage.fires_report χ.stage result recipient
    obtain ⟨others, hp, hp'⟩ := loops_advance (o := ⟨none, _, _⟩) hr hf.spawns
    cases recipient with
    | asker name request =>
        exact ⟨loop, h.post _ (hp'.trans hp.symm) rfl posted_advance (dequeued_advance_of_nil rfl)
          (announced_advance_of_nil rfl)⟩
    | attendant number =>
        exact ⟨loop, h.of_calm (hp'.trans hp.symm) ⟨rfl, rfl⟩ rfl ⟨posted_advance_of_nil rfl,
          dequeued_advance_of_nil rfl, announced_advance_of_nil rfl⟩⟩
  · exact h.serve hr hs

/-! ### Runs -/

/-- A sender that is dropped takes the receiving end with it. -/
theorem Ledger.drop (h : Ledger χ loop) {id : Nat} {a : Activity} {rest : List (Nat × Errand)}
    (ha : a.IsAttended) (hr : χ.running = (id, .ofActivity a) :: rest) :
    ∃ loop', Ledger { χ.pass (χ.stage.drop a) with running := rest } loop' := by
  have hp : χ.loops.Perm ((Errand.ofActivity a).loop?.toList ++
      (χ.stage.scheduled ++ rest).filterMap (·.2.loop?)) := by
    have ht : χ.tasks.Perm ((id, .ofActivity a) :: (χ.stage.scheduled ++ rest)) := by
      rw [tasks, hr]
      exact List.perm_middle
    refine (ht.filterMap _).trans (List.Perm.of_eq ?_)
    rw [List.filterMap_cons]
    cases (Errand.ofActivity a).loop? <;> rfl
  have hs : (χ.stage.drop a).scheduled.Perm (χ.stage.scheduled ++ []) :=
    (Stage.fires_drop χ.stage ha).spawns.scheduled
  rw [List.append_nil] at hs
  have hp' := (hs.append_right rest).filterMap fun t => t.2.loop?
  rcases Stage.drop_cases χ.stage ha with ⟨hl, hq⟩ | ⟨state, hl, hlost, hhanded⟩
  · rw [hl] at hp
    exact ⟨loop, h.of_calm (hp'.trans hp.symm)
      ⟨congrArg _ hq.outbox, congrArg _ hq.outbox⟩ hq.handed ⟨rfl, rfl, rfl⟩⟩
  · rw [hl] at hp
    have hothers : (χ.stage.scheduled ++ rest).filterMap (fun t => t.2.loop?) = [] :=
      (h.of_perm hp).2
    refine ⟨none,
      { loops := ?_
        taken := ?_
        queued := fun hn => absurd hlost hn
        handed := hhanded.trans h.handed
        announced := fun hn => absurd hlost hn }⟩
    · rw [hothers] at hp'
      exact hp'.eq_nil
    · change (χ.stage.drop a).bot.outbox.receiver = _ ↔ _
      rw [hlost]
      exact ⟨fun h => (by cases h), fun h => (by cases h)⟩

/-- Anything that happens is entered. -/
theorem Ledger.step (h : Ledger χ loop) (ho : χ.Orderly) (hs : Step χ χ') :
    ∃ loop', Ledger χ' loop' := by
  -- steps from outside that have nothing to do with the outbox
  have calm {s : Stage} {ts : List Activity} (hsp : χ.stage.Spawns s ts)
      (hn : ∀ a ∈ ts, (Errand.ofActivity a).loop? = none)
      (hout : s.bot.outbox.queue = χ.stage.bot.outbox.queue ∧
        s.bot.outbox.receiver = χ.stage.bot.outbox.receiver)
      (hh : s.bot.handed = χ.stage.bot.handed) : ∃ loop', Ledger (χ.pass s) loop' :=
    ⟨loop, h.of_calm (loops_pass hsp hn) hout hh ⟨rfl, rfl, rfl⟩⟩
  cases hs with
  | reschedule hb hs hn ht =>
      refine ⟨loop, h.of_calm (ht.filterMap _) ⟨?_, ?_⟩ ?_ ⟨rfl, rfl, rfl⟩⟩
      · exact congrArg (·.outbox.queue) hb
      · exact congrArg (·.outbox.receiver) hb
      · exact congrArg (·.handed) hb
  | proceed hr he => exact h.advance hr he
  | drop ha hr => exact h.drop ha hr
  | receive hr hm =>
      obtain ⟨-, ls, -, hq⟩ := receive_ok hr
      obtain ⟨loop', hl⟩ := calm hq.spawns (loop?_launches ls)
        ⟨congrArg _ hq.outbox, congrArg _ hq.outbox⟩ hq.handed
      exact ⟨loop', hl.loops, hl.taken, hl.queued, hl.handed, hl.announced⟩
  | post m =>
      have hp : (χ.pass (χ.stage.post m)).loops.Perm χ.loops :=
        loops_pass (Stage.fires_post χ.stage m).spawns (by simp)
      refine ⟨loop, h.post m hp rfl ?_ ?_ ?_⟩
      · rw [posted, List.filterMap_append]
        rfl
      · rw [dequeued, List.filterMap_append]
        exact List.append_nil _
      · rw [Chronicle.announced, List.filterMap_append]
        exact List.append_nil _
  | @spawn a ha =>
      refine calm (Stage.spawns_spawn χ.stage a) (fun a' ha' => ?_) ⟨rfl, rfl⟩ rfl
      rw [List.mem_singleton.mp ha']
      cases a with
      | sender number state =>
          cases state with
          | fresh => rfl
          | _ => exact ha.elim
      | job recipient work => cases work <;> rfl
      | _ => exact ha.elim
  | stop =>
      exact calm (Stage.fires_withOutbox χ.stage fun o => { o with stops := o.stops + 1 }).spawns
        (by simp) ⟨rfl, rfl⟩ rfl
  | fire hf =>
      obtain ⟨ls, -, hq⟩ := Stage.quiet_fire hf
      exact calm hq.spawns (loop?_launches ls) ⟨congrArg _ hq.outbox, congrArg _ hq.outbox⟩
        hq.handed
  | startTicker =>
      rw [Stage.startTicker]
      split
      · exact calm (.refl _) (by simp) ⟨rfl, rfl⟩ rfl
      · have hspawned := Stage.spawns_spawn χ.stage (.ticker none)
        exact calm ⟨hspawned.ready, hspawned.parked, hspawned.spawned⟩
          (by simp [Errand.ofActivity, Errand.loop?, Errand.sender?]) ⟨rfl, rfl⟩ rfl
  | stopTicker =>
      obtain ⟨hb, -⟩ := bot_stopTicker χ.stage
      obtain ⟨lost, hp, hlost⟩ := ho.tasks_stopTicker
      refine ⟨loop, h.of_calm ?_ ⟨?_, ?_⟩ ?_ ⟨rfl, rfl, rfl⟩⟩
      · have hp := hp.filterMap (·.2.loop?)
        have hnone : lost.filterMap (·.2.loop?) = [] := by
          rw [List.filterMap_eq_nil_iff]
          intro t ht
          obtain ⟨next, hnext⟩ := hlost t ht
          rw [hnext]
          rfl
        rw [List.filterMap_append, hnone, List.append_nil] at hp
        exact hp
      · exact congrArg (·.outbox.queue) hb
      · exact congrArg (·.outbox.receiver) hb
      · exact congrArg (·.handed) hb
  | @edit e he =>
      obtain ⟨-, hout, hh, -⟩ := Bot.edit_spares χ.stage.bot e
      exact calm (Stage.spawns_modify χ.stage _) (by simp) ⟨congrArg _ hout, congrArg _ hout⟩ hh
  | mint => exact calm (Stage.quiet_mint χ.stage).spawns (by simp) ⟨rfl, rfl⟩ rfl

theorem Run.ledger {P : Chronicle → Prop} (h : Run P χ) : ∃ loop, Ledger χ loop := by
  induction h with
  | @start config b hb =>
      obtain ⟨host, rfl, -⟩ := Bot.ofConfig_ok hb
      refine ⟨none, rfl, ⟨?_, ?_⟩, fun _ => rfl, rfl, fun _ => rfl⟩
      · rintro ⟨⟩
      · rintro ⟨⟩
  | step hrun hs _ ih =>
      obtain ⟨loop, hl⟩ := ih
      exact hl.step hrun.orderly hs

/-! ### Announcements -/

/-- The event on which messages are announced exists, with its parameter. -/
def Announcing (χ : Chronicle) : Prop :=
  ∃ s, χ.stage.bot.host.schema? CoreEvent.onMessageSent.name = some s ∧ Schema.ofMessage.Matches s

theorem heard_of_matches {s s' : Stage} {t : Schema} {m : Message} {deed : Deed}
    (h : s.Announces m s' deed)
    (hs : s.bot.host.schema? CoreEvent.onMessageSent.name = some t)
    (ht : Schema.ofMessage.Matches t) : deed = .announced m true := by
  cases h with
  | heard => rfl
  | unheard hf =>
      have hc : (Payload.ofMessage m).Carries t := ht.1
      rcases Host.listeners_eq hs (Payload.ofMessage m) with ⟨-, hl⟩ | ⟨hn, -⟩
      · simp only [Stage.fireTracked, Stage.fire, Bot.launches, Conduct.fire, hl] at hf
        cases hf
      · exact absurd hc hn

/-- While the event exists, what is announced is heard. -/
theorem Step.heard (hs : Step χ χ') (ha : χ.Announcing) :
    ∀ p ∈ χ'.announced, p ∈ χ.announced ∨ p.2 = true := by
  obtain ⟨t, ht, hm⟩ := ha
  intro p hp
  cases hs with
  | @proceed task e rest o hr he =>
      rw [announced_advance, List.mem_append] at hp
      refine hp.imp id fun hp => ?_
      obtain ⟨d, hd, hdp⟩ := List.mem_filterMap.mp hp
      rcases he.cases with ⟨-, -, hinner, -⟩ | ⟨recipient, result, -, rfl⟩ | ⟨number, state, -, hs⟩
      · have hi := hinner d hd
        cases d with
        | announced => exact hi.elim
        | _ => cases hdp
      · cases recipient with
        | asker name request =>
            rw [List.mem_singleton.mp hd] at hdp
            cases hdp
        | attendant number => cases hd
      · cases hs with
        | announce hq hi hannounce =>
            obtain rfl := heard_of_matches hannounce ht hm
            rcases List.mem_pair.mp hd with rfl | rfl
            · cases hdp
            · cases hdp
              rfl
        | arrive htaken hannounce =>
            obtain rfl := heard_of_matches hannounce ht hm
            rw [List.mem_singleton.mp hd] at hdp
            cases hdp
            rfl
        | discard | hand =>
            rw [List.mem_singleton.mp hd] at hdp
            cases hdp
        | refuse | take | stop | lose => cases hd
  | post m =>
      rw [announced, List.filterMap_append] at hp
      exact .inl ((List.append_nil _ : _ ++ [] = χ.announced) ▸ hp)
  | _ => exact .inl hp

theorem Run.heard (h : Run Announcing χ) : ∀ p ∈ χ.announced, p.2 = true := by
  induction h with
  | start hb hp => exact fun p hp => (by cases hp)
  | step hrun hs _ ih => exact fun p hp => (hs.heard hrun.holds p hp).elim (ih p) id

/-! ### What is delivered -/

theorem Orderly.history (h : χ.Orderly) (hs : Step χ χ') :
    ∃ rs, χ'.history = χ.history ++ rs := by
  rcases h.cases hs with ⟨id, e, rest, o, -, -, rfl⟩ | ⟨m, s, ls, -, -, -, -, hs⟩ | ⟨⟨ts, hs⟩, -⟩
  · exact ⟨_, rfl⟩
  · exact ⟨_, hs.history.choose_spec.1⟩
  · exact ⟨_, hs.history.choose_spec.1⟩

theorem Reachable.steps (h : Reachable χ) (hs : Steps χ χ') :
    Reachable χ' ∧ ∃ rs, χ'.history = χ.history ++ rs := by
  induction hs with
  | refl => exact ⟨h, [], (List.append_nil _).symm⟩
  | tail _ hs ih =>
      obtain ⟨hrun, rs, hrs⟩ := ih
      obtain ⟨rs', hrs'⟩ := hrun.orderly.history hs
      exact ⟨hrun.step hs trivial, rs ++ rs', by rw [hrs', hrs, List.append_assoc]⟩

/-- **The outbox is a queue, and nothing is lost or delivered twice.**  As long as no sender was
dropped with the receiving end:

* what was put in is what was taken out, by all senders together, followed by what is queued;
* one sender at most has the receiving end, and another one that starts is refused and leaves the
  outbox alone;
* whatever happens next, what is queued is taken out before all that is put in later;
* the transport was given exactly the messages to a channel outside, in order and as texts;
* announced were exactly the internal messages, as they were, and those that the transport took,
  in order; the one that the transport has taken last may still be in transit.  Announcements are
  heard as long as their event exists. -/
theorem outbox_in_order (h : Reachable χ) (hl : χ.stage.bot.outbox.receiver ≠ .lost) :
    χ.posted = χ.dequeued.map (·.1) ++ χ.stage.bot.outbox.queue ∧
    (χ.loops.length ≤ 1 ∧ (χ.loops ≠ [] → ∀ company number,
      χ.stage.pollSender company number .fresh =
        (none, χ.stage.endSender number (.error .senderRunning)) ∧
      (χ.stage.endSender number (.error .senderRunning)).bot.outbox = χ.stage.bot.outbox)) ∧
    (∀ χ', Steps χ χ' → χ'.stage.bot.outbox.receiver ≠ .lost → ∃ taken later,
      χ'.dequeued = χ.dequeued ++ taken ∧ χ'.posted = χ.posted ++ later ∧
      taken.map (·.1) ++ χ'.stage.bot.outbox.queue = χ.stage.bot.outbox.queue ++ later) ∧
    (χ.stage.bot.handed = χ.dequeued.filterMap handover? ∧
      ∀ m : Message, m.outward = { m with body := .text (match m.body with
        | .text text => text
        | .error reason => m.sender ++ "-exception: " ++ reason) }) ∧
    χ.announced.map (·.1) ++ χ.loops.flatMap SenderState.inTransit =
      χ.dequeued.filterMap announcement? ∧
    (Run Announcing χ → ∀ p ∈ χ.announced, p.2 = true) := by
  obtain ⟨loop, hledger⟩ := h.ledger
  refine ⟨hledger.queued hl, ⟨?_, fun hbusy company number => ?_⟩, fun χ' hsteps hl' => ?_,
    ⟨hledger.handed, Message.outward_eq⟩, ?_, Run.heard⟩
  · rw [hledger.loops]
    cases loop <;> simp
  · have htaken : χ.stage.bot.outbox.receiver = .taken := by
      refine hledger.taken.mpr (Option.isSome_iff_ne_none.mpr fun hn => hbusy ?_)
      rw [hledger.loops, hn]
      rfl
    refine ⟨?_, (Stage.quiet_endSender χ.stage number _).outbox⟩
    rw [Stage.pollSender, if_neg (by rw [htaken]; decide)]
  · obtain ⟨hrun, rs, hrs⟩ := h.steps hsteps
    obtain ⟨loop', hledger'⟩ := hrun.ledger
    have hd : χ'.dequeued = χ.dequeued ++ rs.filterMap (·.deed.dequeued?) := by
      rw [dequeued, hrs, List.filterMap_append]
      rfl
    have hp : χ'.posted = χ.posted ++ rs.filterMap (·.deed.posted?) := by
      rw [posted, hrs, List.filterMap_append]
      rfl
    refine ⟨_, _, hd, hp, ?_⟩
    have hq := hledger'.queued hl'
    rw [hp, hledger.queued hl, hd, List.map_append, List.append_assoc, List.append_assoc] at hq
    exact (List.append_cancel_left hq).symm
  · rw [← hledger.announced hl, hledger.loops]
    cases loop <;> simp

namespace Sample

/-- A failure that goes to a channel outside. -/
def parcel : Message := { body := .error "late", sender := "echo", address := .external "room" }

def begun : Chronicle := start Bot.Sample.bare

def queued : Chronicle :=
  { begun.pass (begun.stage.post parcel) with history := begun.history ++ [⟨none, .posted parcel⟩] }

def called : Chronicle := queued.pass (queued.stage.spawn (.sender none .fresh)).2

def starting : Chronicle :=
  { called.pass { called.stage with ready := [] } with
    running := [(0, .activity (.sender none .fresh))] }

def listening : Chronicle :=
  starting.advance 0 [] ⟨some (.activity (.sender none (.listening 0))),
    starting.stage.withOutbox fun o => { o with receiver := .taken }, []⟩

/-- The sender has given the message to the transport. -/
def handing : Chronicle :=
  listening.advance 0 [] ⟨some (.activity (.sender none (.sending 0 ⟨parcel.outward, true⟩ 0))),
    (listening.stage.withQueue []).hand ⟨parcel.outward, true⟩, [.dequeued parcel true]⟩

theorem reachable_handing : Reachable handing := by
  have hb : Bot.ofConfig {} = .ok Bot.Sample.bare := rfl
  have r₀ : Reachable begun := .start hb trivial
  have r₁ : Reachable queued := r₀.step (.post parcel) trivial
  have r₂ : Reachable called := r₁.step (.spawn trivial) trivial
  have r₃ : Reachable starting := r₂.step (.reschedule rfl rfl (Nat.le_refl _) (.refl _)) trivial
  have r₄ : Reachable listening := r₃.step (.proceed rfl (.send (.take rfl))) trivial
  exact r₄.step (.proceed rfl (.send (.hand rfl rfl rfl true 0))) trivial

end Sample

theorem outbox_in_order_sample :
    Reachable Sample.handing ∧ Sample.handing.stage.bot.outbox.receiver ≠ .lost ∧
      Sample.handing.stage.bot.handed =
        [⟨Sample.parcel.withText "echo-exception: late", true⟩] := by
  have hl : Sample.handing.stage.bot.outbox.receiver ≠ .lost := by decide
  obtain ⟨-, -, -, ⟨hh, -⟩, -⟩ := outbox_in_order Sample.reachable_handing hl
  exact ⟨Sample.reachable_handing, hl, hh⟩

end Chronicle

end ChatBot
