import ChatBot.Proofs.Bot.Callers
import ChatBot.Proofs.Bot.Outbox

/-!
# One reply per message

A message from outside that calls a command gets one reply, when the command has ended, and nothing
else that is done on its behalf leaves the bot.

* `Chronicle.Answered`: the invariant.  A task that is put down to a message has queued nothing
  while it is at work, and one reply when it has ended.
* `Chronicle.one_reply_per_message`: what this means for messages from outside.
-/

namespace ChatBot

/-- A command never replies with a blank text to someone outside. -/
theorem isBlank_of_replyBody {name text : String} {m : Message}
    {result : Except CommandError String} (hm : m.isInternal = false)
    (h : replyBody name m result = .text text) : Text.isBlank text = false := by
  cases result with
  | error e => cases h
  | ok said =>
      rw [replyBody, hm, Bool.not_false, Bool.and_true] at h
      split at h
      · cases h
      · rename_i hb
        cases h
        exact Bool.eq_false_iff.mpr hb

namespace Chronicle

variable {χ χ' : Chronicle}

/-! ### Tasks that have not ended -/

/-- The task has not ended. -/
def IsLive (χ : Chronicle) (id : Nat) : Prop := id ∈ χ.tasks.map (·.1)

theorem isLive_iff {id : Nat} : χ.IsLive id ↔ ∃ e, (id, e) ∈ χ.tasks := by
  simp [IsLive]

/-- When a task has gone on, those are live that were, but for itself if it has ended, and the new
ones. -/
theorem Orderly.isLive_advance (h : χ.Orderly) {id : Nat} {e : Errand} {rest : List (Nat × Errand)}
    {o : Stride} {ts : List Activity} (hr : χ.running = (id, e) :: rest)
    (ho : χ.stage.Spawns o.stage ts) (id' : Nat) :
    (χ.advance id rest o).IsLive id' ↔ id' = id ∧ o.next.isSome ∨ id' ≠ id ∧ χ.IsLive id' ∨
      χ.stage.spawned ≤ id' ∧ id' < o.stage.spawned := by
  obtain ⟨hp, hp'⟩ := tasks_advance hr ho
  have hn := (hp.map (·.1)).nodup_iff.mp h.nodup
  have hself : id ∉ (χ.stage.scheduled ++ rest).map (·.1) := (List.nodup_cons.mp hn).1
  rw [IsLive, IsLive, (hp'.map _).mem_iff, (hp.map _).mem_iff, List.map_append, List.map_append,
    Stage.numbers_newcomers, List.mem_append, List.mem_append, List.map_cons, List.mem_cons,
    List.mem_range'_1, ← ho.spawned, or_assoc]
  refine or_congr ?_ (or_congr ?_ Iff.rfl)
  · cases o.next <;> simp
  · refine ⟨fun hm => ⟨fun he => hself (he ▸ hm), .inr hm⟩, fun hm => ?_⟩
    exact hm.2.resolve_left hm.1

/-- No task that is put down to a message ends but by going on. -/
theorem Traced.isLive_of_shifts (h : χ.Traced) (ho : χ.Orderly) {entry : Option Acceptance}
    {ts : List Activity} (hs : Shifts χ χ' (entry.map fun _ => χ.accepted.length) ts)
    (he : ∀ acc, entry = some acc → χ.Enters acc ts) {id n : Nat} (hn : χ'.cause id = some n) :
    χ'.IsLive id ↔ χ.IsLive id ∨ χ.stage.spawned ≤ id ∧ id < χ'.stage.spawned := by
  obtain ⟨lost, hp, hlost⟩ := hs.tasks
  rw [hs.spawned, ← List.mem_range'_1, ← Stage.numbers_newcomers, IsLive, IsLive,
    ← List.mem_append, ← List.map_append, ← (hp.map _).mem_iff, List.map_append, List.mem_append,
    or_iff_left]
  rintro hm
  obtain ⟨t, ht, rfl⟩ := List.mem_map.mp hm
  rw [hs.cause] at hn
  rcases List.mem_append.mp (hp.mem_iff.mp (List.mem_append_right _ ht)) with hold | hnew
  · have hid := ho.fresh t hold
    rw [causes_of_lt hid] at hn
    obtain ⟨acc, hacc, -⟩ := h.caused _ hid n hn
    obtain ⟨name, m, hserves, -⟩ := h.serving t hold n acc hn hacc
    exact hserves.not_isService (hlost t ht)
  · obtain ⟨hle, -, a, ha, hte⟩ := Stage.mem_newcomers hnew
    rw [causes_of_le hle] at hn
    obtain ⟨acc, rfl, -⟩ := Option.map_eq_some_iff.mp hn
    have hservice := hlost t ht
    rw [hte] at hservice
    rcases (he acc rfl).starts with ⟨serial, i, args, -, -, rfl⟩ | ⟨rfl, -⟩
    · rw [List.mem_singleton.mp ha] at hservice
      exact Errand.not_isService_launched _ _ hservice
    · cases ha

/-! ### What a task has queued -/

/-- The messages that a task has put into the outbox, in order. -/
def postedBy (χ : Chronicle) (id : Nat) : List Message :=
  χ.history.filterMap fun r => if r.doer = some id then r.deed.posted? else none

/-- The messages that were put into the outbox on behalf of an accepted message, in order. -/
def postedFor (χ : Chronicle) (n : Nat) : List Message := (χ.doneFor n).filterMap Deed.posted?

theorem postedBy_append {rs : List Record} (h : χ'.history = χ.history ++ rs) (id : Nat) :
    χ'.postedBy id = χ.postedBy id ++
      rs.filterMap fun r => if r.doer = some id then r.deed.posted? else none := by
  rw [postedBy, h, List.filterMap_append]
  rfl

theorem postedBy_of_others {rs : List Record} (h : χ'.history = χ.history ++ rs) {id : Nat}
    (hrs : ∀ r ∈ rs, r.doer ≠ some id) : χ'.postedBy id = χ.postedBy id := by
  rw [postedBy_append h, List.filterMap_eq_nil_iff.mpr, List.append_nil]
  exact fun r hr => if_neg (hrs r hr)

theorem postedBy_advance (id : Nat) (rest : List (Nat × Errand)) (o : Stride) :
    (χ.advance id rest o).postedBy id = χ.postedBy id ++ o.deeds.filterMap Deed.posted? := by
  have hh : (χ.advance id rest o).history = χ.history ++ o.deeds.map (⟨some id, ·⟩) := rfl
  rw [postedBy_append hh, List.filterMap_map]
  simp only [Function.comp_def, if_true]

/-- A task that is still to come has queued nothing. -/
theorem Orderly.postedBy_eq_nil (h : χ.Orderly) {id : Nat} (hid : χ.stage.spawned ≤ id) :
    χ.postedBy id = [] :=
  List.filterMap_eq_nil_iff.mpr fun r hr =>
    if_neg fun hd => Nat.not_lt.mpr hid (h.doers r hr id hd)

/-- The messages that are queued on behalf of a message and satisfy `p`, if they all come from the
task `root`. -/
theorem postedFor_filter {n root : Nat} {p : Message → Bool} (hroot : χ.cause root = some n)
    (h : ∀ r ∈ χ.history, ∀ id reply, r.doer = some id → χ.cause id = some n →
      r.deed = .posted reply → (p reply = true ↔ id = root)) :
    (χ.postedFor n).filter p = χ.postedBy root := by
  rw [postedFor, doneFor, List.filterMap_map, List.filterMap_filter, List.filter_filterMap,
    postedBy]
  refine List.filterMap_congr fun r hr => ?_
  obtain ⟨doer, deed⟩ := r
  cases doer with
  | none => rfl
  | some id =>
      rw [Function.comp_apply, Option.bind_some]
      cases deed with
      | posted reply =>
          by_cases hid : χ.cause id = some n
          · have hp := h _ hr id reply rfl hid rfl
            by_cases hr : id = root
            · simp [hr, hroot, Deed.posted?, hp.mpr hr]
            · simp [hid, hr, Deed.posted?, mt hp.mp hr]
          · have hne : id ≠ root := fun he => hid (he ▸ hroot)
            simp [hid, hne]
      | _ => simp [Deed.posted?]

/-! ### The invariant -/

/-- Every task that is put down to a message replies once, when it ends; and there are such tasks
for those messages only that call a command. -/
structure Answered (χ : Chronicle) : Prop where
  settled : ∀ id < χ.stage.spawned, ∀ n, χ.cause id = some n →
    χ.IsLive id ∧ χ.postedBy id = [] ∨ ¬ χ.IsLive id ∧ ∃ reply, χ.postedBy id = [reply]
  consistent : ∀ acc ∈ χ.accepted, acc.stage.bot.Consistent
  called : ∀ n acc name, χ.accepted[n]? = some acc → acc.stage.bot.IsCalled name acc.message →
    acc.stage.spawned < χ.stage.spawned ∧ χ.cause acc.stage.spawned = some n
  caused : ∀ id < χ.stage.spawned, ∀ n acc, χ.cause id = some n → χ.accepted[n]? = some acc →
    ∃ name, acc.stage.bot.IsCalled name acc.message

theorem Answered.advance (h : χ.Answered) (ht : χ.Traced) (ho : χ.Orderly)
    (hcommands : χ.CommandsOnly) {id : Nat} {e : Errand} {rest : List (Nat × Errand)} {o : Stride}
    (hr : χ.running = (id, e) :: rest) (he : e.Proceeds χ.stage o) :
    (χ.advance id rest o).Answered := by
  have hmem : (id, e) ∈ χ.tasks := List.mem_append_right _ (hr ▸ List.mem_cons_self)
  have hid : id < χ.stage.spawned := ho.fresh _ hmem
  obtain ⟨ls, hf⟩ := he.fires
  have hlive := ho.isLive_advance hr hf.spawns
  have hle : χ.stage.spawned ≤ o.stage.spawned := hf.spawns.spawned ▸ Nat.le_add_right _ _
  have hothers {id' : Nat} (hne : id' ≠ id) :
      (χ.advance id rest o).postedBy id' = χ.postedBy id' := by
    refine postedBy_of_others rfl fun r hr hd => ?_
    obtain ⟨d, -, rfl⟩ := List.mem_map.mp hr
    exact hne (Option.some.inj hd).symm
  refine
    { settled := fun id' hid' n hn => ?_
      consistent := h.consistent
      called := fun n acc name hacc hc => ?_
      caused := fun id' hid' n acc hn hacc => ?_ }
  · change χ.causes (χ.cause id) id' = some n at hn
    change id' < o.stage.spawned at hid'
    rw [hlive]
    rcases Nat.lt_or_ge id' χ.stage.spawned with hlt | hge
    · have hnew : ¬ χ.stage.spawned ≤ id' := Nat.not_le.mpr hlt
      rw [causes_of_lt hlt] at hn
      by_cases heq : id' = id
      · -- the task itself replies as it ends
        subst heq
        obtain ⟨acc, hacc, -⟩ := ht.caused _ hid n hn
        obtain ⟨ls, -, hserves⟩ := ht.continues ho hcommands hmem he
        obtain ⟨name, m, -, hc, -⟩ := hserves n acc hn hacc
        have hnone : χ.postedBy id' = [] := by
          rcases h.settled id' hid n hn with ⟨-, hp⟩ | ⟨hdead, -⟩
          · exact hp
          · exact absurd (isLive_iff.mpr ⟨e, hmem⟩) hdead
        rw [postedBy_advance, hnone, List.nil_append]
        cases hnext : o.next with
        | some e' =>
            refine .inl ⟨.inl ⟨rfl, rfl⟩, List.filterMap_eq_nil_iff.mpr ?_⟩
            exact (hc.next e' hnext).2
        | none =>
            obtain ⟨result, hd⟩ := hc.ends hnext
            exact .inr ⟨by simp [hnew], _, by rw [hd]; rfl⟩
      · rw [hothers heq]
        simpa [heq, hnew] using h.settled id' hlt n hn
    · have hne : id' ≠ id := Nat.ne_of_gt (Nat.lt_of_lt_of_le hid hge)
      refine .inl ⟨.inr (.inr ⟨hge, hid'⟩), ?_⟩
      rw [hothers hne, ho.postedBy_eq_nil hge]
  · obtain ⟨hlt, hn⟩ := h.called n acc name hacc hc
    exact ⟨Nat.lt_of_lt_of_le hlt hle, (causes_of_lt hlt _).trans hn⟩
  · change χ.causes (χ.cause id) id' = some n at hn
    rcases Nat.lt_or_ge id' χ.stage.spawned with hlt | hge
    · rw [causes_of_lt hlt] at hn
      exact h.caused id' hlt n acc hn hacc
    · rw [causes_of_le hge] at hn
      exact h.caused id hid n acc hn hacc

theorem Answered.of_shifts (h : χ.Answered) (ht : χ.Traced) (ho : χ.Orderly)
    {entry : Option Acceptance} {ts : List Activity}
    (hs : Shifts χ χ' (entry.map fun _ => χ.accepted.length) ts)
    (hacc : χ'.accepted = χ.accepted ++ entry.toList)
    (he : ∀ acc, entry = some acc → χ.Enters acc ts) : χ'.Answered := by
  obtain ⟨rs, hh, hrs⟩ := hs.history
  have hposted (id : Nat) : χ'.postedBy id = χ.postedBy id := by
    refine postedBy_of_others hh fun r hr hd => ?_
    rw [(hrs r hr).1] at hd
    cases hd
  refine
    { settled := fun id hid n hn => ?_
      consistent := fun acc ha => ?_
      called := fun n acc name ha hc => ?_
      caused := fun id hid n acc hn ha => ?_ }
  · rw [ht.isLive_of_shifts ho hs he hn, hposted]
    rw [hs.cause] at hn
    rcases Nat.lt_or_ge id χ.stage.spawned with hlt | hge
    · rw [causes_of_lt hlt] at hn
      have hnew : ¬ χ.stage.spawned ≤ id := Nat.not_le.mpr hlt
      simpa [hnew] using h.settled id hlt n hn
    · exact .inl ⟨.inr ⟨hge, hid⟩, ho.postedBy_eq_nil hge⟩
  · rw [hacc] at ha
    rcases List.mem_append.mp ha with ha | ha
    · exact h.consistent acc ha
    · rw [(he acc (Option.mem_toList.mp ha)).stage]
      exact ho.consistent
  · rw [hs.cause, hs.spawned]
    rcases getElem?_accepted_cases hacc ha with ha | ⟨rfl, rfl⟩
    · obtain ⟨hid, hn⟩ := h.called n acc name ha hc
      exact ⟨Nat.lt_of_lt_of_le hid (Nat.le_add_right _ _), (causes_of_lt hid _).trans hn⟩
    · -- it is the message that has just come in
      have hen := he acc rfl
      rcases hen.starts with ⟨serial, i, args, -, -, rfl⟩ | ⟨-, hno⟩
      · rw [hen.stage]
        exact ⟨by simp, causes_of_le (Nat.le_refl _) _⟩
      · exact absurd (hen.stage ▸ hc) (hno name)
  · rw [hs.cause] at hn
    rcases Nat.lt_or_ge id χ.stage.spawned with hlt | hge
    · rw [causes_of_lt hlt] at hn
      obtain ⟨acc', ha', -⟩ := ht.caused id hlt n hn
      obtain rfl : acc = acc' := Option.some.inj (ha.symm.trans (getElem?_accepted hacc ha'))
      exact h.caused id hlt n acc hn ha'
    · rw [causes_of_le hge] at hn
      obtain ⟨acc', hentry, ha'⟩ := getElem?_entry hacc hn
      obtain rfl : acc = acc' := Option.some.inj (ha.symm.trans ha')
      have hen := he acc hentry
      rcases hen.starts with ⟨serial, i, args, hc, -, -⟩ | ⟨rfl, -⟩
      · exact ⟨i.name, hen.stage ▸ hc⟩
      · rw [hs.spawned] at hid
        exact absurd hid (Nat.not_lt.mpr hge)

theorem Answered.step (h : χ.Answered) (ht : χ.Traced) (ho : χ.Orderly)
    (hcommands : χ.CommandsOnly) (hs : Step χ χ') : χ'.Answered := by
  rcases ho.cases_entry hcommands hs with ⟨id, e, rest, o, hr, he, rfl⟩ | ⟨entry, ts, hs, hacc, he⟩
  · exact h.advance ht ho hcommands hr he
  · exact h.of_shifts ht ho hs hacc he

theorem answered_start (b : Bot) : (start b).Answered where
  settled _ h := nomatch h
  consistent _ h := nomatch h
  called _ _ _ h := nomatch h
  caused _ h := nomatch h

theorem Run.answered (h : Run CommandsOnly χ) : χ.Answered := by
  induction h with
  | start => exact answered_start _
  | step hrun hs _ ih => exact ih.step hrun.traced hrun.orderly hrun.holds hs

/-! ### Messages from outside -/

/-- The task that a message starts replies to where the message came from, and all that is done
on its behalf by other tasks stays inside the bot. -/
theorem Run.address_of_posted (h : Run CommandsOnly χ) {n id : Nat} {acc : Acceptance}
    (ha : χ.accepted[n]? = some acc) (hn : χ.cause id = some n) {reply : Message}
    (hr : ⟨some id, .posted reply⟩ ∈ χ.history) :
    id = acc.stage.spawned ∧ reply.address = acc.message.address ∨
      id ≠ acc.stage.spawned ∧ reply.isInternal = true := by
  obtain ⟨name, m, result, ⟨-, hplace⟩, rfl⟩ := h.traced.deeds _ hr id n acc rfl hn ha
  exact hplace.imp (fun hp => ⟨hp.1, hp.2.1⟩) fun hp => hp

/-- What is queued for outside on behalf of a message from there is what the task has queued that
the message itself started. -/
theorem Run.postedFor_eq (h : Run CommandsOnly χ) {n : Nat} {acc : Acceptance}
    (ha : χ.accepted[n]? = some acc) (hm : acc.message.isInternal = false)
    (hroot : χ.cause acc.stage.spawned = some n) :
    (χ.postedFor n).filter (·.address == acc.message.address) =
      χ.postedBy acc.stage.spawned := by
  refine postedFor_filter hroot fun ⟨doer, deed⟩ hr id reply hd hn hp => ?_
  obtain rfl : doer = some id := hd
  obtain rfl : deed = .posted reply := hp
  rcases h.address_of_posted ha hn hr with ⟨hid, haddress⟩ | ⟨hid, hi⟩
  · exact iff_of_true (beq_iff_eq.mpr haddress) hid
  · refine iff_of_false (fun he => ?_) hid
    rw [Message.isInternal, beq_iff_eq.mp he, ← Message.isInternal, hm] at hi
    cases hi

theorem mem_postedBy {id : Nat} {reply : Message} (hr : reply ∈ χ.postedBy id) :
    ⟨some id, .posted reply⟩ ∈ χ.history := by
  obtain ⟨⟨doer, deed⟩, hr, hd⟩ := List.mem_filterMap.mp hr
  obtain ⟨rfl, hd⟩ := Option.ite_none_right_eq_some.mp hd
  cases deed with
  | posted m =>
      cases hd
      exact hr
  | _ => cases hd

/-- The task that a message from outside starts replies as the command that is called. -/
theorem Run.reply_of_called (h : Run CommandsOnly χ) {n : Nat} {acc : Acceptance}
    (ha : χ.accepted[n]? = some acc) (hm : acc.message.isInternal = false)
    (hroot : χ.cause acc.stage.spawned = some n) {reply : Message}
    (hr : reply ∈ χ.postedBy acc.stage.spawned) :
    acc.stage.bot.IsCalled reply.sender acc.message ∧ reply.recipient = acc.message.sender ∧
      ((∃ text, reply.body = .text text ∧ Text.isBlank text = false) ∨
        ∃ reason, reply.body = .error reason) := by
  obtain ⟨name, m, result, ⟨hs, ⟨-, haddress, hc⟩ | ⟨hne, -⟩⟩, rfl⟩ :=
    h.traced.deeds _ (mem_postedBy hr) acc.stage.spawned n acc rfl hroot ha
  · have hmi : m.isInternal = false := by
      rw [Message.isInternal, haddress, ← Message.isInternal, hm]
    refine ⟨hc, hs.sender, ?_⟩
    change (∃ text, replyBody name m result = _ ∧ _) ∨ ∃ reason, replyBody name m result = _
    cases hbody : replyBody name m result with
    | text text => exact .inl ⟨text, rfl, isBlank_of_replyBody hmi hbody⟩
    | error reason => exact .inr ⟨reason, rfl⟩
  · exact absurd rfl hne

/-- A message from outside that calls a command is answered by its task, once this has ended. -/
theorem Run.replies_of_called (h : Run CommandsOnly χ) {n : Nat} {acc : Acceptance}
    (ha : χ.accepted[n]? = some acc) (hm : acc.message.isInternal = false) {name : String}
    (hc : acc.stage.bot.IsCalled name acc.message) :
    χ.cause acc.stage.spawned = some n ∧
      (χ.postedFor n).filter (·.address == acc.message.address) = χ.postedBy acc.stage.spawned ∧
      (χ.IsLive acc.stage.spawned ∧ χ.postedBy acc.stage.spawned = [] ∨
        ¬ χ.IsLive acc.stage.spawned ∧ ∃ reply, χ.postedBy acc.stage.spawned = [reply]) := by
  obtain ⟨hid, hroot⟩ := h.answered.called n acc name ha hc
  exact ⟨hroot, h.postedFor_eq ha hm hroot, h.answered.settled _ hid n hroot⟩

/-- What is published on behalf of a message goes back to an evaluation. -/
theorem Run.isInternal_of_published (h : Run CommandsOnly χ) {n : Nat} {acc : Acceptance}
    (ha : χ.accepted[n]? = some acc) {request : Message}
    (hr : .published request ∈ χ.doneFor n) : request.isInternal = true := by
  obtain ⟨r, hr, hd⟩ := List.mem_map.mp hr
  obtain ⟨hr, hn⟩ := List.mem_filter.mp hr
  obtain ⟨id, hdoer, hn⟩ := Option.bind_eq_some_iff.mp (beq_iff_eq.mp hn)
  have hf := h.traced.deeds r hr id n acc hdoer hn ha
  rw [hd] at hf
  obtain ⟨-, -, a, haddress, -⟩ := hf
  rw [Message.isInternal, haddress]
  rfl

/-- Nothing is done on behalf of a message that calls no command. -/
theorem Answered.doneFor_eq_nil (h : χ.Answered) (ho : χ.Orderly) {n : Nat} {acc : Acceptance}
    (ha : χ.accepted[n]? = some acc) (hc : ¬ ∃ name, acc.stage.bot.IsCalled name acc.message) :
    χ.doneFor n = [] := by
  rw [doneFor, List.map_eq_nil_iff, List.filter_eq_nil_iff]
  intro r hr hn
  obtain ⟨id, hd, hn⟩ := Option.bind_eq_some_iff.mp (beq_iff_eq.mp hn)
  exact hc (h.caused id (ho.doers r hr id hd) n acc hn ha)

/-- The transport is given nothing with an internal address. -/
theorem Ledger.isInternal_of_handed {loop : Option SenderState} (h : Ledger χ loop) {v : Handover}
    (hv : v ∈ χ.stage.bot.handed) : v.message.isInternal = false := by
  rw [h.handed] at hv
  obtain ⟨⟨m, taken⟩, -, hm⟩ := List.mem_filterMap.mp hv
  rw [handover?] at hm
  dsimp only at hm
  split at hm
  · rename_i channel hchannel
    split at hm
    · cases hm
    · cases hm
      rw [Message.outward_eq, Message.isInternal, hchannel]
      rfl
  · cases hm
  · cases hm

/-- **One reply per message.**  Where only commands listen for messages, take a message that was
accepted from a channel outside.  The task with the next number, if the message starts one, is the
command that it calls.

* At most one message to the address of the message is queued on its behalf.
* It is queued when the message calls a command and this command has ended, and not before.
* It comes from the one command that is called, and goes to the sender of the message; it has a text
  that is not blank, or tells of a failure.
* All that is published on behalf of the message, and all that other tasks reply on its behalf, has
  an internal address, and the transport is given nothing with such an address. -/
theorem one_reply_per_message (h : Run CommandsOnly χ) {n : Nat} {acc : Acceptance}
    (ha : χ.accepted[n]? = some acc) {channel : String}
    (hchannel : acc.message.address = .external channel) :
    let command := acc.stage.spawned
    let replies := (χ.postedFor n).filter (·.address == acc.message.address)
    replies.length ≤ 1 ∧
    ((replies ≠ [] ↔
      (∃ name, acc.stage.bot.IsCalled name acc.message) ∧ ¬ χ.IsLive command) ∧
      ∀ name, acc.stage.bot.IsCalled name acc.message → ∀ e, (command, e) ∈ χ.tasks →
        ∃ request, e.Serves χ.stage.bot name request) ∧
    (∀ reply ∈ replies, acc.stage.bot.IsCalled reply.sender acc.message ∧
      (∀ name, acc.stage.bot.IsCalled name acc.message → name = reply.sender) ∧
      reply.recipient = acc.message.sender ∧
      ((∃ text, reply.body = .text text ∧ Text.isBlank text = false) ∨
        ∃ reason, reply.body = .error reason)) ∧
    (∀ request, .published request ∈ χ.doneFor n → request.isInternal = true) ∧
    (∀ id reply, χ.cause id = some n → ⟨some id, .posted reply⟩ ∈ χ.history → id ≠ command →
      reply.isInternal = true) ∧
    ∀ handover ∈ χ.stage.bot.handed, handover.message.isInternal = false := by
  intro command replies
  have hanswered := h.answered
  have hm : acc.message.isInternal = false := by rw [Message.isInternal, hchannel]; rfl
  have hunique {name name' : String} (hn : acc.stage.bot.IsCalled name acc.message)
      (hn' : acc.stage.bot.IsCalled name' acc.message) : name = name' :=
    (hanswered.consistent acc (List.mem_of_getElem? ha)).isCalled_unique hn hn'
  -- the replies are those of the command that is called
  have hnone (hc : ¬ ∃ name, acc.stage.bot.IsCalled name acc.message) : replies = [] := by
    change ((χ.doneFor n).filterMap Deed.posted?).filter _ = []
    rw [hanswered.doneFor_eq_nil h.orderly ha hc]
    rfl
  have hcalled {name : String} (hc : acc.stage.bot.IsCalled name acc.message) :
      χ.cause command = some n ∧ replies = χ.postedBy command ∧
        (χ.IsLive command ∧ χ.postedBy command = [] ∨
          ¬ χ.IsLive command ∧ ∃ reply, χ.postedBy command = [reply]) :=
    h.replies_of_called ha hm hc
  refine ⟨?_, ⟨?_, fun name hc e he => ?_⟩, fun reply hr => ?_,
    fun request hr => h.isInternal_of_published ha hr, fun id reply hn hr hne => ?_,
    fun handover hv => ?_⟩
  · by_cases hc : ∃ name, acc.stage.bot.IsCalled name acc.message
    · obtain ⟨name, hc⟩ := hc
      obtain ⟨-, hreplies, ⟨-, hp⟩ | ⟨-, reply, hp⟩⟩ := hcalled hc <;> simp [hreplies, hp]
    · simp [hnone hc]
  · by_cases hc : ∃ name, acc.stage.bot.IsCalled name acc.message
    · obtain ⟨name, hn⟩ := id hc
      obtain ⟨-, hreplies, ⟨hl, hp⟩ | ⟨hl, reply, hp⟩⟩ := hcalled hn <;>
        simp only [hreplies, hp, hl, hc] <;> simp
    · simp [hnone hc, hc]
  · obtain ⟨hroot, -⟩ := hcalled hc
    obtain ⟨name', m, hserves, ⟨-, ⟨-, -, hc'⟩ | ⟨hne, -⟩⟩, -⟩ :=
      h.traced.serving _ he n acc hroot ha
    · exact ⟨m, hunique hc hc' ▸ hserves⟩
    · exact absurd rfl hne
  · by_cases hc : ∃ name, acc.stage.bot.IsCalled name acc.message
    · obtain ⟨name, hc⟩ := hc
      obtain ⟨hroot, hreplies, -⟩ := hcalled hc
      rw [hreplies] at hr
      obtain ⟨hc', hrecipient, hbody⟩ := h.reply_of_called ha hm hroot hr
      exact ⟨hc', fun name hn => hunique hn hc', hrecipient, hbody⟩
    · rw [hnone hc] at hr
      cases hr
  · rcases h.address_of_posted ha hn hr with ⟨he, -⟩ | ⟨-, hi⟩
    · exact absurd he hne
    · exact hi
  · obtain ⟨loop, hledger⟩ := h.ledger
    exact hledger.isInternal_of_handed hv

namespace Sample

/-- Someone outside wants to hear a word again. -/
def greeting : Message := { body := .text "!echo hi", sender := "ann", address := .external "room" }

/-- What the command is given. -/
def word : Message := greeting.named.withText "hi"

def echoing : Chronicle :=
  (start Bot.Sample.bare).pass
    ((start Bot.Sample.bare).stage.modify fun b => (b.edit (.add "echo" "" .echo)).2)

def greeted : Chronicle := echoing.accept greeting (echoing.stage.receive greeting).2

def awake : Chronicle :=
  { greeted.pass { greeted.stage with ready := [] } with
    running := [(0, .activity (.launched (.command 0) (Payload.ofMessage word)))] }

def working : Chronicle :=
  awake.advance 0 [] ⟨some (.activity (.job (.asker "echo" word) (.fresh .echo word))),
    awake.stage, [.ran "echo" word]⟩

def done : Chronicle :=
  working.advance 0 [] ⟨some (.result (.asker "echo" word) (.ok "hi")), working.stage, []⟩

def answer : Message := word.respond (.text "hi") "echo"

def replied : Chronicle :=
  done.advance 0 [] ⟨none, done.stage.post answer, [.posted answer]⟩

theorem run_replied : Run CommandsOnly replied := by
  have hb : Bot.ofConfig {} = .ok Bot.Sample.bare := rfl
  have he : (BotEdit.add "echo" "" .echo).IsUnrelated := trivial
  have r₀ : Run CommandsOnly echoing :=
    (Run.start hb (commandsOnly_of_all rfl)).step (.edit he) (commandsOnly_of_all rfl)
  have hreceive : echoing.stage.receive greeting =
      (.ok true, (echoing.stage.receive greeting).2) := by
    refine Prod.ext ?_ rfl
    with_unfolding_all rfl
  have r₁ : Run CommandsOnly greeted :=
    r₀.step (.receive hreceive (by rintro a ⟨⟩)) (commandsOnly_of_all (by with_unfolding_all rfl))
  have htasks : awake.tasks = greeted.tasks := by with_unfolding_all rfl
  have r₂ : Run CommandsOnly awake :=
    r₁.step (.reschedule rfl rfl (Nat.le_refl _) (.of_eq htasks))
      (commandsOnly_of_all (by with_unfolding_all rfl))
  have hinstalled : awake.stage.bot.installation? 0 = some ⟨"echo", .echo⟩ := by
    with_unfolding_all rfl
  have r₃ : Run CommandsOnly working :=
    r₂.step (.proceed rfl (.launch hinstalled rfl))
      (commandsOnly_of_all (by with_unfolding_all rfl))
  have hturn : working.stage.begin? word .echo = some (.ends (.ok "hi")) := by
    with_unfolding_all rfl
  have r₄ : Run CommandsOnly done :=
    r₃.step (.proceed rfl (.run hturn)) (commandsOnly_of_all (by with_unfolding_all rfl))
  have hreport : (Errand.result (.asker "echo" word) (.ok "hi")).Proceeds done.stage
      ⟨none, done.stage.post answer, [.posted answer]⟩ := .report
  exact r₄.step (.proceed rfl hreport) (commandsOnly_of_all (by with_unfolding_all rfl))

end Sample

theorem one_reply_per_message_sample :
    Run CommandsOnly Sample.replied ∧
      Sample.replied.accepted[0]? = some ⟨Sample.greeting, Sample.echoing.stage⟩ ∧
      Sample.greeting.address = .external "room" ∧
      Sample.echoing.stage.bot.IsCalled "echo" Sample.greeting ∧
      ((Sample.replied.postedFor 0).filter (·.address == Sample.greeting.address)).length = 1 := by
  have ha : Sample.replied.accepted[0]? = some ⟨Sample.greeting, Sample.echoing.stage⟩ := rfl
  have hposted : Sample.answer ∈
      (Sample.replied.postedFor 0).filter (·.address == Sample.greeting.address) := by
    with_unfolding_all decide
  obtain ⟨hl, -, hreply, -⟩ := one_reply_per_message Sample.run_replied ha rfl
  obtain ⟨hc, -⟩ := hreply _ hposted
  exact ⟨Sample.run_replied, ha, rfl, hc,
    Nat.le_antisymm hl (List.length_pos_of_mem hposted)⟩

end Chronicle

end ChatBot
