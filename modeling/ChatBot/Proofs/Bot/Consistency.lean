import Mathlib.Data.List.Basic
import ChatBot.Bot.Lifecycle
import ChatBot.Proofs.Directory
import ChatBot.Proofs.Event.Register

/-!
# Registry and host are in step

A bot keeps its commands in two places: the registry knows the names, and the host has a callback
for each command that is answered here.  `Bot.Consistent` says how they fit together.

* `Bot.Consistent.of_grows`: what does not concern commands keeps them in step.
* `Bot.Consistent.of_set`, `Bot.Consistent.of_erase`: so does registering a name that is free, with
  its callback, and taking it back.
-/

namespace ChatBot

/-! ### Callbacks of commands -/

/-- The serial number of the command that a callback runs. -/
def Callback.command? (c : Callback Handler) : Option Nat :=
  match c.target.ident with
  | .command serial => some serial
  | _ => none

/-- Whether a callback runs a command. -/
def Callback.isCommand (c : Callback Handler) : Bool := c.command?.isSome

@[simp] theorem command?_commandCallback (serial : Nat) :
    (commandCallback serial).command? = some serial := rfl

/-- All callbacks of an event, active or parked. -/
def Bot.callbacks (b : Bot) (event : CoreEvent) : List (Callback Handler) :=
  b.host.active event.name ++ b.host.parked event.name

/-- Whether a callback answers to `name`. -/
def Bot.answersTo (b : Bot) (name : String) (c : Callback Handler) : Bool :=
  (c.command?.bind b.installation?).any (·.name == name)

namespace Bot

variable {b b' : Bot}

/-- The two places are in step.  Every registered command that has a callback has just this one on
`on_message`, and there are no other callbacks of commands. -/
structure Consistent (b : Bot) : Prop where
  separated : b.host.Separated
  sorted : b.registry.Sorted
  titled : ∀ name g, b.registry.get? name = some g → g.info.name = name ∧ isCommandName name
  numbered : ∀ p ∈ b.installed, p.1 < b.minted
  attached : ∀ name g c, b.registry.get? name = some g → g.callback = some c →
    ∃ serial command, c = commandCallback serial ∧ b.installation? serial = some ⟨name, command⟩
  listed : ∀ name, (b.host.register CoreEvent.onMessage.name).callbacks.filter (b.answersTo name) =
    ((b.registry.get? name).bind (·.callback)).toList
  known : ∀ c ∈ (b.host.register CoreEvent.onMessage.name).callbacks, ∀ serial,
    c.command? = some serial → c = commandCallback serial ∧ ∃ i, b.installation? serial = some i
  elsewhere : ∀ event, event ≠ CoreEvent.onMessage.name →
    ∀ c ∈ (b.host.register event).callbacks, c.isCommand = false

/-- Commands that were put down stay so, and numbers are given out. -/
structure Grows (b b' : Bot) : Prop where
  installed : ∀ serial i, b.installation? serial = some i → b'.installation? serial = some i
  minted : b.minted ≤ b'.minted
  config : b'.config = b.config

theorem Grows.refl (b : Bot) : b.Grows b := ⟨fun _ _ h => h, Nat.le_refl _, rfl⟩

theorem Grows.trans {b'' : Bot} (h : b.Grows b') (h' : b'.Grows b'') : b.Grows b'' where
  installed serial i hi := h'.installed serial i (h.installed serial i hi)
  minted := Nat.le_trans h.minted h'.minted
  config := h'.config.trans h.config

theorem Grows.answersTo (h : b.Grows b') {c : Callback Handler}
    (hc : ∀ serial, c.command? = some serial → ∃ i, b.installation? serial = some i)
    (name : String) : b'.answersTo name c = b.answersTo name c := by
  rw [Bot.answersTo, Bot.answersTo]
  cases hs : c.command? with
  | none => rfl
  | some serial =>
      obtain ⟨i, hi⟩ := hc serial hs
      rw [Option.bind_some, Option.bind_some, hi, h.installed serial i hi]

/-- The callbacks of commands on a host. -/
def SameCommands (h h' : Host Handler) : Prop :=
  ∀ event, (h'.register event).callbacks.filter Callback.isCommand =
    (h.register event).callbacks.filter Callback.isCommand

theorem isCommand_of_answersTo {name : String} {c : Callback Handler}
    (h : b.answersTo name c = true) : c.isCommand = true := by
  rw [answersTo] at h
  rw [Callback.isCommand]
  cases hc : c.command? with
  | none => rw [hc] at h; cases h
  | some serial => rfl

theorem SameCommands.mem {h h' : Host Handler} (hs : SameCommands h h') {event : String}
    {c : Callback Handler} (hm : c ∈ (h'.register event).callbacks) (hc : c.isCommand = true) :
    c ∈ (h.register event).callbacks := by
  have hf : c ∈ (h'.register event).callbacks.filter Callback.isCommand :=
    List.mem_filter.mpr ⟨hm, hc⟩
  rw [hs event] at hf
  exact (List.mem_filter.mp hf).1

theorem SameCommands.filter {h h' : Host Handler} (hs : SameCommands h h') (event : String)
    {p : Callback Handler → Bool} (hp : ∀ c, p c = true → c.isCommand = true) :
    (h'.register event).callbacks.filter p = (h.register event).callbacks.filter p := by
  have hf (cs : List (Callback Handler)) :
      cs.filter p = (cs.filter Callback.isCommand).filter p := by
    rw [List.filter_filter]
    refine List.filter_congr fun c _ => ?_
    cases hpc : p c with
    | false => rfl
    | true => rw [hp c hpc]; rfl
  rw [hf, hs event, ← hf]

/-- What does not concern commands keeps the two places in step. -/
theorem Consistent.of_grows (hb : b.Consistent) (hg : b.Grows b')
    (hr : b'.registry = b.registry) (hn : ∀ p ∈ b'.installed, p.1 < b'.minted)
    (hs : b'.host.Separated) (hc : SameCommands b.host b'.host) : b'.Consistent where
  separated := hs
  sorted := hr ▸ hb.sorted
  titled := hr ▸ hb.titled
  numbered := hn
  attached name g c hget hcall := by
    obtain ⟨serial, command, he, hi⟩ := hb.attached name g c (hr ▸ hget) hcall
    exact ⟨serial, command, he, hg.installed serial _ hi⟩
  listed name := by
    rw [hc.filter _ fun c => isCommand_of_answersTo, hr, ← hb.listed name]
    exact List.filter_congr fun c hm =>
      hg.answersTo (fun serial hs => (hb.known c hm serial hs).2) _
  known c hm serial hs := by
    obtain ⟨he, i, hi⟩ := hb.known c (hc.mem hm (by rw [Callback.isCommand, hs]; rfl)) serial hs
    exact ⟨he, i, hg.installed serial i hi⟩
  elsewhere event he c hm := by
    cases hcmd : c.isCommand with
    | false => rfl
    | true => exact hcmd.symm.trans (hb.elsewhere event he c (hc.mem hm hcmd))

/-! ### Installing -/

theorem installation?_install (b : Bot) (i : Installation) (serial : Nat) :
    (b.install i).2.installation? serial =
      if serial = b.minted then some i else b.installation? serial := by
  rw [installation?, install, List.lookup_cons]
  by_cases hs : serial = b.minted
  · simp [hs]
  · have hb : (serial == b.minted) = false := beq_eq_false_iff_ne.mpr hs
    rw [hb, if_neg hs]
    rfl

theorem Consistent.lt_minted (hb : b.Consistent) {serial : Nat} {i : Installation}
    (hi : b.installation? serial = some i) : serial < b.minted := by
  obtain ⟨before, rest, hl, -⟩ := List.lookup_eq_some_iff.mp hi
  exact hb.numbered (serial, i) (hl ▸ List.mem_append_right _ List.mem_cons_self)

theorem Consistent.grows_install (hb : b.Consistent) (i : Installation) :
    b.Grows (b.install i).2 where
  installed serial j hj := by
    rw [installation?_install, if_neg (Nat.ne_of_lt (hb.lt_minted hj))]
    exact hj
  minted := Nat.le_succ _
  config := rfl

theorem Consistent.install (hb : b.Consistent) (i : Installation) : (b.install i).2.Consistent :=
  hb.of_grows (hb.grows_install i) rfl
    (List.forall_mem_cons.mpr
      ⟨Nat.lt_succ_self _, fun p hp => Nat.lt_succ_of_lt (hb.numbered p hp)⟩)
    hb.separated fun _ => rfl

/-! ### Registering -/

/-- A name that is free, and what is registered under it. -/
theorem Consistent.of_set (hb : b.Consistent) {name : String} {g : Registration Handler}
    {host : Host Handler} (hn : isCommandName name = true) (hget : b.registry.get? name = none)
    (ht : g.info.name = name) (hs : host.Separated)
    (hcall : ∀ c, g.callback = some c →
      ∃ serial command, c = commandCallback serial ∧ b.installation? serial = some ⟨name, command⟩)
    (hl : ∀ event, (host.register event).callbacks = (b.host.register event).callbacks ++
      if event = CoreEvent.onMessage.name then g.callback.toList else []) :
    ({ b with host := host, registry := b.registry.set name g } : Bot).Consistent := by
  have hlisted (event : String) (c : Callback Handler) (hm : c ∈ (host.register event).callbacks) :
      c ∈ (b.host.register event).callbacks ∨
        event = CoreEvent.onMessage.name ∧ g.callback = some c := by
    rw [hl, List.mem_append] at hm
    refine hm.imp id fun hm => ?_
    split at hm
    · rename_i he
      exact ⟨he, Option.mem_toList.mp hm⟩
    · cases hm
  have get (other : String) : (b.registry.set name g).get? other =
      if name = other then some g else b.registry.get? other := Directory.get?_set _ _ _ _
  exact
    { separated := hs
      sorted := hb.sorted.set name g
      titled := fun other g' hg => by
        dsimp only at hg
        rw [get] at hg
        split at hg
        · rename_i ho
          cases hg
          exact ho ▸ ⟨ht, hn⟩
        · exact hb.titled other g' hg
      numbered := hb.numbered
      attached := fun other g' c hg hc => by
        dsimp only at hg
        rw [get] at hg
        split at hg
        · rename_i ho
          cases hg
          exact ho ▸ hcall c hc
        · exact hb.attached other g' c hg hc
      listed := fun other => by
        change (host.register _).callbacks.filter (b.answersTo other) = _
        rw [hl, if_pos rfl, List.filter_append, hb.listed other, get]
        -- who is new answers to the name, and to no other one
        have hnew (c : Callback Handler) (hc : g.callback = some c) :
            b.answersTo other c = (name == other) := by
          obtain ⟨serial, command, rfl, hi⟩ := hcall c hc
          rw [answersTo, command?_commandCallback, Option.bind_some, hi]
          rfl
        by_cases ho : name = other
        · subst ho
          cases hc : g.callback with
          | none => simp [hget, hc]
          | some c => simp [hget, hc, hnew c hc]
        · cases hc : g.callback with
          | none => simp [ho]
          | some c => simp [ho, hnew c hc]
      known := fun c hm serial hc => by
        rcases hlisted _ c hm with hm | ⟨-, hg⟩
        · exact hb.known c hm serial hc
        · obtain ⟨serial', command, rfl, hi⟩ := hcall c hg
          cases hc
          exact ⟨rfl, _, hi⟩
      elsewhere := fun event he c hm => by
        rcases hlisted event c hm with hm | ⟨he', -⟩
        · exact hb.elsewhere event he c hm
        · exact absurd he' he }

/-- What is registered is taken back, with its callback. -/
theorem Consistent.of_erase (hb : b.Consistent) {name : String} {g : Registration Handler}
    {host : Host Handler} (hget : b.registry.get? name = some g) (hs : host.Separated)
    (hl : ∀ event, (host.register event).callbacks =
      if event = CoreEvent.onMessage.name then
        g.callback.elim (b.host.register event).callbacks (b.host.register event).callbacks.erase
      else (b.host.register event).callbacks) :
    ({ b with host := host, registry := b.registry.erase name } : Bot).Consistent := by
  have hsub (event : String) (c : Callback Handler) (hm : c ∈ (host.register event).callbacks) :
      c ∈ (b.host.register event).callbacks := by
    rw [hl] at hm
    split at hm
    · cases hc : g.callback with
      | none => rw [hc] at hm; exact hm
      | some c' => rw [hc] at hm; exact List.mem_of_mem_erase hm
    · exact hm
  have get (other : String) : (b.registry.erase name).get? other =
      if name = other then none else b.registry.get? other := Directory.get?_erase _ _ _
  have sub {other : String} {g' : Registration Handler}
      (hg : (b.registry.erase name).get? other = some g') : b.registry.get? other = some g' := by
    rw [get] at hg
    split at hg
    · cases hg
    · exact hg
  exact
    { separated := hs
      sorted := hb.sorted.erase name
      titled := fun other g' hg => hb.titled other g' (sub hg)
      numbered := hb.numbered
      attached := fun other g' c hg hc => hb.attached other g' c (sub hg) hc
      listed := fun other => by
        change (host.register _).callbacks.filter (b.answersTo other) = _
        rw [hl, if_pos rfl, get]
        cases hc : g.callback with
        | none =>
            rw [Option.elim_none, hb.listed other]
            by_cases ho : name = other
            · subst ho
              simp [hget, hc]
            · simp [ho]
        | some c =>
            rw [Option.elim_some, ← List.erase_filter, hb.listed other]
            by_cases ho : name = other
            · subst ho
              simp [hget, hc]
            · -- who goes did not answer to this name
              have hcm : c ∉ ((b.registry.get? other).bind (·.callback)).toList := by
                rw [← hb.listed other]
                obtain ⟨serial, command, rfl, hi⟩ := hb.attached name g c hget hc
                simp [answersTo, hi, ho]
              simp [ho, List.erase_of_not_mem hcm]
      known := fun c hm => hb.known c (hsub _ c hm)
      elsewhere := fun event he c hm => hb.elsewhere event he c (hsub event c hm) }

/-! ### New bots -/

/-- A bot without commands on a host where nobody listens. -/
theorem consistent_of_idle (hs : b.host.Separated) (hr : b.registry = {}) (hi : b.installed = [])
    (hl : ∀ event, (b.host.register event).callbacks = []) : b.Consistent where
  separated := hs
  sorted := hr ▸ Directory.sorted_empty
  titled name g hg := by rw [hr] at hg; cases hg
  numbered p hp := by rw [hi] at hp; cases hp
  attached name g c hg := by rw [hr] at hg; cases hg
  listed name := by rw [hl, hr]; rfl
  known c hc := by rw [hl] at hc; cases hc
  elsewhere event _ c hc := by rw [hl] at hc; cases hc

/-- To create events is to let nobody listen. -/
theorem separated_of_foldlM {h h' : Host Handler} {events : List CoreEvent} (hs : h.Separated)
    (hl : ∀ event, (h.register event).callbacks = [])
    (hf : events.foldlM (fun (h : Host Handler) e => h.create e.name e.schema) h = .ok h') :
    h'.Separated ∧ ∀ event, (h'.register event).callbacks = [] := by
  induction events generalizing h with
  | nil =>
      cases hf
      exact ⟨hs, hl⟩
  | cons e es ih =>
      rw [List.foldlM_cons] at hf
      cases hc : h.create e.name e.schema with
      | error error => rw [hc] at hf; cases hf
      | ok h₁ =>
          rw [hc] at hf
          refine ih (hs.create hc) (fun event => ?_) hf
          have hk : h.afterEdit (.create e.name e.schema) = h₁ := by
            rw [Host.afterEdit, Host.edit, hc]
            rfl
          rw [← hk, Host.callbacks_afterEdit_of_isCycling (e := .create _ _) hs trivial, hl]

end Bot

end ChatBot
