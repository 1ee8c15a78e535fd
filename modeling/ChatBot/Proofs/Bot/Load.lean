import ChatBot.Proofs.Bot.Calls
import ChatBot.Proofs.Bot.Tracking

/-!
# How much a bot takes on

A bot takes no message in while more of its tracked tasks are unfinished than it is allowed to have.

* `Stage.Loaded` is a bot at work, with the numbers of all tasks that were ever tracked, and
  `Stage.Ledger` says that those are tracked now that have not ended.
* `Stage.load_shed`: which messages are taken in, and what follows for the number of tasks.
-/

namespace ChatBot

/-- Which messages can be taken in. -/
theorem Message.isAcceptable_iff (m : Message) :
    m.isAcceptable = true ↔ Text.isBlank m.text = false ∧ m.sender ≠ "" ∧
      ∀ c ∈ m.sender.toList, Text.isSpace c = false := by
  simp [Message.isAcceptable, and_assoc]

namespace Stage

variable {company : Company} {s s' : Stage} {ids : List Nat}

/-! ### Runs -/

/-- What can happen to a bot but for messages coming in: tasks have their turns in any order, time
goes by, and someone outside does something. -/
inductive Undergoes (company : Company) (s : Stage) : Stage → Prop where
  | turn {s' : Stage} (hs : s.step? company.program = some s') : Undergoes company s s'
  | rearrange {ready parked : List (Nat × Activity)}
      (hp : (ready ++ parked).Perm (s.ready ++ s.parked)) :
      Undergoes company s { s with ready := ready, parked := parked }
  | jump (time : Nat) : Undergoes company s (s.jump time)
  | startTicker : Undergoes company s s.startTicker
  | stopTicker : Undergoes company s s.stopTicker
  | befall {s' : Stage} (hb : s.Befalls s') : Undergoes company s s'

/-- The tasks that are tracked in `s'` and were not started before `s`. -/
def enlisted (s s' : Stage) : List Nat := s'.tracked.filter (s.spawned ≤ ·)

/-- A bot at work, with all tasks that were tracked so far, whether or not they have ended.  Of
everything that happens but for messages `Q` holds. -/
inductive Loaded (company : Company) (Q : Stage → Stage → Prop) : List Nat → Stage → Prop where
  | begin {config : Config} {b : Bot} (hb : Bot.ofConfig config = .ok b) :
      Loaded company Q [] (.ofBot b)
  | receive {ids : List Nat} {s : Stage} (h : Loaded company Q ids s) (m : Message) :
      Loaded company Q (ids ++ s.enlisted (s.receive m).2) (s.receive m).2
  | pass {ids : List Nat} {s s' : Stage} (h : Loaded company Q ids s) (hp : s.Undergoes company s')
      (hq : Q s s') : Loaded company Q (ids ++ s.enlisted s') s'
  | drain {ids : List Nat} {s : Stage} (h : Loaded company Q ids s) :
      Loaded company Q [] s.drainTracked.2

namespace Undergoes

theorem isOrderly (h : s.Undergoes company s') (ho : s.IsOrderly) : s'.IsOrderly := by
  cases h with
  | turn hs => exact ho.becomes (becomes_step? hs)
  | rearrange hp => exact ho.becomes (becomes_of_perm rfl rfl (Nat.le_refl _) hp)
  | jump time => exact ho.becomes (becomes_jump s time)
  | startTicker => exact ho.becomes (becomes_startTicker s)
  | stopTicker => exact ho.becomes (becomes_stopTicker s)
  | befall hb => exact ho.befalls hb

theorem config (h : s.Undergoes company s') (ho : s.IsOrderly) : s'.bot.config = s.bot.config := by
  cases h with
  | turn hs => exact config_step? ho hs
  | rearrange | jump => rfl
  | startTicker => exact config_startTicker s
  | stopTicker => rw [(Chronicle.bot_stopTicker s).1]
  | befall hb => exact (Spares.befalls ho hb).config

theorem tallies (h : s.Undergoes company s') (ho : s.IsOrderly) (hn : s.tracked.Nodup)
    (hl : ∀ id ∈ s.tracked, s.isLive id = true) : s.Tallies s' := by
  cases h with
  | turn hs => exact tallies_step? ho hn hl hs
  | rearrange hp =>
      refine .of_isLive_eq hl rfl rfl fun id => ?_
      rw [Bool.eq_iff_iff, Schedule.isLive_iff, Schedule.isLive_iff]
      exact (hp.map _).mem_iff
  | jump time => exact .of_isLive_eq hl rfl rfl fun _ => rfl
  | startTicker => exact tallies_startTicker hl
  | stopTicker => exact tallies_stopTicker hn hl
  | befall hb =>
      obtain ⟨ts, hspawns⟩ := hb.exists_spawns
      exact .of_spawns hl hspawns (enlists_befalls hb)

end Undergoes

/-! ### Taking messages in -/

/-- What is refused leaves no trace. -/
theorem receive_of_refused {m : Message}
    (h : ¬ (m.isAcceptable = true ∧ s.outstanding ≤ s.bot.config.maxTasks)) :
    s.receive m = (.ok false, s) := by
  rw [receive]
  by_cases hm : m.isAcceptable = true
  · rw [if_neg (by simp [hm]), if_pos (Nat.lt_of_not_le fun hle => h ⟨hm, hle⟩)]
  · rw [if_pos (by simp [hm])]

/-- What is taken in is told to those who listen for messages. -/
theorem receive_of_taken {m : Message} (hm : m.isAcceptable = true)
    (ho : s.outstanding ≤ s.bot.config.maxTasks) :
    s.receive m = ((s.tell .onMessage (Payload.ofMessage m.named)).1.map fun _ => true,
      (s.tell .onMessage (Payload.ofMessage m.named)).2) := by
  rw [receive, if_neg (by simp [hm]), if_neg (Nat.not_lt.mpr ho)]

theorem tallies_receive (hl : ∀ id ∈ s.tracked, s.isLive id = true) (m : Message) :
    s.Tallies (s.receive m).2 := by
  by_cases hr : (s.receive m).1 = .ok true
  · obtain ⟨-, ls, -, hq⟩ := receive_ok hr
    exact .of_spawns hl hq.spawns (enlists_receive s m)
  · rw [receive_eq hr]
    exact .of_spawns hl (.refl s) (.refl s)

theorem taken_of_receive {m : Message} (h : (s.receive m).1 = .ok true) :
    m.isAcceptable = true ∧ s.outstanding ≤ s.bot.config.maxTasks := by
  by_contra hno
  rw [receive_of_refused hno] at h
  cases h

/-- All tasks that are started when an event is told are tracked. -/
theorem tell_eq {event : CoreEvent} {payload : Payload} {ls : List (Launch Handler)}
    (hl : s.bot.launches event.name payload = .ok ls) :
    (s.tell event payload).1 = .ok () ∧ (s.tell event payload).2.spawned = s.spawned + ls.length ∧
      (s.tell event payload).2.tracked = s.tracked ++ List.range' s.spawned ls.length := by
  have hfire : s.fireTracked event payload = .ok
      ((s.spawnAll (ls.map Launch.activity)).2.track (s.spawnAll (ls.map Launch.activity)).1) := by
    rw [fireTracked, fire, hl]
    rfl
  rw [tell, hfire, Schedule.spawnAll_eq, List.length_map]
  exact ⟨rfl, rfl, rfl⟩

theorem tracked_receive {m : Message} (hm : m.isAcceptable = true)
    (ho : s.outstanding ≤ s.bot.config.maxTasks) {ls : List (Launch Handler)}
    (hl : s.bot.launches CoreEvent.onMessage.name (Payload.ofMessage m.named) = .ok ls) :
    (s.receive m).1 = .ok true ∧
      (s.receive m).2.tracked = s.tracked ++ List.range' s.spawned ls.length := by
  obtain ⟨hok, -, htracked⟩ := tell_eq hl
  rw [receive_of_taken hm ho, hok]
  exact ⟨rfl, htracked⟩

/-! ### What is tracked -/

/-- Those tasks are tracked that were tracked once and have not ended. -/
structure Ledger (ids : List Nat) (s : Stage) : Prop where
  orderly : s.IsOrderly
  nodup : ids.Nodup
  known : ∀ id ∈ ids, id < s.spawned
  tracked : s.tracked = ids.filter s.isLive

namespace Ledger

theorem isLive (h : Ledger ids s) : ∀ id ∈ s.tracked, s.isLive id = true := by
  rw [h.tracked]
  exact fun id hid => List.of_mem_filter hid

theorem nodup_tracked (h : Ledger ids s) : s.tracked.Nodup := h.tracked ▸ h.nodup.filter _

theorem step (h : Ledger ids s) (ho : s'.IsOrderly) (ht : s.Tallies s') :
    Ledger (ids ++ s.enlisted s') s' := by
  obtain ⟨new, htracked, hn, hnew⟩ := ht.tracked
  have henlisted : s.enlisted s' = new := by
    have hold : ∀ id ∈ s.tracked.filter s'.isLive, ¬ s.spawned ≤ id := fun id hid =>
      Nat.not_le_of_lt
        (h.known id (List.mem_of_mem_filter (h.tracked ▸ List.mem_of_mem_filter hid)))
    rw [enlisted, htracked, List.filter_append,
      List.filter_eq_nil_iff.mpr fun id hid => by simpa using hold id hid,
      List.filter_eq_self.mpr fun id hid => decide_eq_true (hnew id hid).1.1, List.nil_append]
  rw [henlisted]
  refine
    { orderly := ho
      nodup := h.nodup.append hn fun id hid hid' =>
        Nat.not_le_of_lt (h.known id hid) (hnew id hid').1.1
      known := fun id hid => ?_
      tracked := ?_ }
  · rcases List.mem_append.mp hid with hid | hid
    · exact Nat.lt_of_lt_of_le (h.known id hid) ht.precedes.spawned
    · exact (hnew id hid).1.2
  · rw [htracked, h.tracked, List.filter_filter, List.filter_append,
      List.filter_eq_self.mpr fun id hid => (hnew id hid).2]
    refine congrArg (· ++ new) (List.filter_congr fun id hid => ?_)
    -- what is live has been live before
    cases hlive : s'.isLive id with
    | false => rfl
    | true =>
        exact (ht.precedes.live id hlive).resolve_right fun hn =>
          Nat.not_le_of_lt (h.known id hid) hn.1

end Ledger

theorem Loaded.ledger {Q : Stage → Stage → Prop} (h : Loaded company Q ids s) :
    Ledger ids s := by
  induction h with
  | begin hb =>
      exact ⟨.ofBot hb, .nil, by simp, rfl⟩
  | receive h m ih => exact ih.step (ih.orderly.receive m) (tallies_receive ih.isLive m)
  | pass h hp hq ih =>
      exact ih.step (hp.isOrderly ih.orderly) (hp.tallies ih.orderly ih.nodup_tracked ih.isLive)
  | drain h ih =>
      exact ⟨ih.orderly.becomes (becomes_of_eq rfl rfl (Nat.le_refl _) rfl), .nil, by simp, rfl⟩

/-! ### How many there are -/

/-- Nothing but messages adds tracked tasks, and only commands listen for messages. -/
def IsQuietOtherwise (s s' : Stage) : Prop :=
  s'.tracked ⊆ s.tracked ∧ (s'.bot.host.register CoreEvent.onMessage.name).IsCommandsOnly

/-- Where only commands listen, a message starts one task at most. -/
theorem outstanding_receive (ho : s.IsOrderly)
    (hc : (s.bot.host.register CoreEvent.onMessage.name).IsCommandsOnly) (m : Message)
    (hs : s.outstanding ≤ s.bot.config.maxTasks + 1) :
    (s.receive m).2.outstanding ≤ s.bot.config.maxTasks + 1 := by
  by_cases hr : (s.receive m).1 = .ok true
  · obtain ⟨hm, hle⟩ := taken_of_receive hr
    obtain ⟨-, ls, hl, -⟩ := receive_ok hr
    have hone : ls.length ≤ 1 := by
      rcases ho.consistent.launches_onMessage hc hl with ⟨serial, i, args, -, -, -, rfl⟩ | ⟨rfl, -⟩
      · exact Nat.le_refl 1
      · exact Nat.zero_le 1
    rw [Schedule.outstanding, (tracked_receive hm hle hl).2, List.length_append, List.length_range']
    exact Nat.add_le_add hle hone
  · rw [receive_eq hr]
    exact hs

/-- Whatever comes in, the same ones listen for messages. -/
theorem register_receive (ho : s.IsOrderly) (m : Message) :
    (s.receive m).2.bot.host.register CoreEvent.onMessage.name =
      s.bot.host.register CoreEvent.onMessage.name := by
  by_cases hr : (s.receive m).1 = .ok true
  · obtain ⟨-, ls, -, hq⟩ := receive_ok hr
    exact hq.toFires.register ho.consistent.separated
  · rw [receive_eq hr]

theorem Loaded.outstanding_le {Q : Stage → Stage → Prop}
    (hQ : ∀ s s', Q s s' → IsQuietOtherwise s s') (h : Loaded company Q ids s) :
    (s.bot.host.register CoreEvent.onMessage.name).IsCommandsOnly ∧
      s.outstanding ≤ s.bot.config.maxTasks + 1 := by
  induction h with
  | begin hb =>
      obtain ⟨host, rfl, -, hl⟩ := Bot.ofConfig_ok hb
      refine ⟨fun c hc => ?_, Nat.zero_le _⟩
      have hnone : (host.register CoreEvent.onMessage.name).callbacks = [] := hl _
      exact absurd (hnone ▸ hc) List.not_mem_nil
  | @receive ids s h m ih =>
      obtain ⟨hc, hle⟩ := ih
      have ho := h.ledger.orderly
      refine ⟨?_, ?_⟩
      · rw [register_receive ho]
        exact hc
      · rw [(Spares.receive s m).config]
        exact outstanding_receive ho hc m hle
  | @pass ids s s' h hp hq ih =>
      have hledger := h.ledger
      obtain ⟨hsub, hc⟩ := hQ _ _ hq
      refine ⟨hc, ?_⟩
      rw [hp.config hledger.orderly]
      have hn := (h.pass hp hq).ledger.nodup_tracked
      exact Nat.le_trans (hn.subperm hsub).length_le ih.2
  | drain h ih => exact ⟨ih.1, Nat.zero_le _⟩

/-- **Load is shed.**  Where `on_message` can be fired, a message is taken in if and only if it is
not blank, its sender is one word, and no more tracked tasks are unfinished than are allowed.  Then
all tasks that it starts are tracked.  Otherwise nothing happens, whatever the host is: no event is
fired.  The tracked tasks that are unfinished are counted, and no others.

So if nobody but commands listens for messages, and nothing but messages adds tracked tasks, there
is never more than one unfinished task above the limit. -/
theorem load_shed {Q : Stage → Stage → Prop} (h : Loaded company Q ids s) :
    (s.bot.host.schema? CoreEvent.onMessage.name = some Schema.ofMessage → ∀ m : Message,
      ((s.receive m).1 = .ok true ↔ Text.isBlank m.text = false ∧ m.sender ≠ "" ∧
        (∀ c ∈ m.sender.toList, Text.isSpace c = false) ∧
        (ids.filter s.isLive).length ≤ s.bot.config.maxTasks) ∧
      ((s.receive m).1 = .ok true →
        ∃ ls, s.bot.launches CoreEvent.onMessage.name (Payload.ofMessage m.named) = .ok ls ∧
          (s.receive m).2.tracked = s.tracked ++ List.range' s.spawned ls.length) ∧
      ((s.receive m).1 ≠ .ok true → s.receive m = (.ok false, s) ∧
        ∀ host, Stage.receive (s.modify fun b => { b with host := host }) m =
          (.ok false, s.modify fun b => { b with host := host }))) ∧
    s.tracked = ids.filter s.isLive ∧
    ((∀ s s', Q s s' → IsQuietOtherwise s s') →
      (ids.filter s.isLive).length ≤ s.bot.config.maxTasks + 1) := by
  have htracked := h.ledger.tracked
  have houtstanding : s.outstanding = (ids.filter s.isLive).length := congrArg List.length htracked
  refine ⟨fun hs m => ?_, htracked, fun hQ => houtstanding ▸ (h.outstanding_le hQ).2⟩
  obtain ⟨s', hf⟩ := exists_fireTracked hs m.named
  obtain ⟨ls, hl, -⟩ := quiet_fireTracked hf
  have hiff : (s.receive m).1 = .ok true ↔
      m.isAcceptable = true ∧ s.outstanding ≤ s.bot.config.maxTasks :=
    ⟨taken_of_receive, fun ⟨hm, ho⟩ => (tracked_receive hm ho hl).1⟩
  refine ⟨?_, fun hr => ?_, fun hr => ?_⟩
  · rw [hiff, Message.isAcceptable_iff, houtstanding, and_assoc, and_assoc]
  · obtain ⟨hm, ho⟩ := hiff.mp hr
    exact ⟨ls, hl, (tracked_receive hm ho hl).2⟩
  · have hno := fun htaken => hr (hiff.mpr htaken)
    exact ⟨receive_of_refused hno, fun host =>
      receive_of_refused (s := s.modify fun b => { b with host := host }) hno⟩

namespace Sample

/-- A bot that does one thing at a time, with a command that takes a second. -/
def strict : Bot := (Bot.ofConfig { maxTasks := 0 }).toOption.getD {}

def slow : BotEdit := .add "slow" "" (.custom fun _ => .wait 1000 (.done (.ok "done")))

def idle : Stage := (ofBot strict).modify fun b => (b.edit slow).2

/-- The command is called, and works. -/
def busy : Stage := ((idle.receive request).2.step? (Company.program {})).getD idle

theorem loaded_busy : Loaded {} IsQuietOtherwise [0] busy := by
  have hb : Bot.ofConfig { maxTasks := 0 } = .ok strict := rfl
  have hbegun : Loaded {} IsQuietOtherwise [] (ofBot strict) := .begin hb
  have hidle : IsQuietOtherwise (ofBot strict) idle := by
    refine ⟨List.Subset.refl _, ?_⟩
    change ∀ c ∈ (idle.bot.host.register CoreEvent.onMessage.name).callbacks, c.isCommand = true
    decide +kernel
  have hadded := hbegun.pass (.befall (.edit (e := slow) trivial)) hidle
  have hreceived := hadded.receive request
  have hturn : (idle.receive request).2.step? (Company.program {}) = some busy := by
    have hsome : ((idle.receive request).2.step? (Company.program {})).isSome = true := by
      decide +kernel
    obtain ⟨s, hs⟩ := Option.isSome_iff_exists.mp hsome
    rw [busy, hs, Option.getD_some]
  have hbusy : IsQuietOtherwise (idle.receive request).2 busy := by
    refine ⟨?_, ?_⟩
    · intro id hid
      revert id
      decide +kernel
    · change ∀ c ∈ (busy.bot.host.register CoreEvent.onMessage.name).callbacks, c.isCommand = true
      decide +kernel
  have hworking := hreceived.pass (.turn hturn) hbusy
  have hids : [] ++ enlisted (ofBot strict) idle ++ idle.enlisted (idle.receive request).2 ++
      (idle.receive request).2.enlisted busy = [0] := by decide +kernel
  exact hids ▸ hworking

end Sample

/-- While the command works, it is not called again. -/
theorem load_shed_sample :
    Loaded {} IsQuietOtherwise [0] Sample.busy ∧ Sample.busy.isLive 0 = true ∧
      Sample.busy.receive Sample.request = (.ok false, Sample.busy) ∧
      ([0].filter Sample.busy.isLive).length ≤ 1 := by
  have hschema : Sample.busy.bot.host.schema? CoreEvent.onMessage.name = some Schema.ofMessage := by
    decide +kernel
  have hmax : Sample.busy.bot.config.maxTasks = 0 := by decide +kernel
  have hlive : Sample.busy.isLive 0 = true := by decide +kernel
  obtain ⟨hreceive, -, hbound⟩ := load_shed Sample.loaded_busy
  obtain ⟨htaken, -, hrefused⟩ := hreceive hschema Sample.request
  refine ⟨Sample.loaded_busy, hlive, (hrefused fun hr => ?_).1, ?_⟩
  · have hle := (htaken.mp hr).2.2.2
    rw [hmax, List.filter_cons_of_pos hlive] at hle
    exact absurd hle (by simp)
  · have hle := hbound fun _ _ hq => hq
    rw [hmax] at hle
    exact hle

end Stage

end ChatBot
