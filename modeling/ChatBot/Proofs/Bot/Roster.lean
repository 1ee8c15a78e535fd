import Mathlib.Logic.Function.Basic
import ChatBot.Proofs.Bot.Consistency

/-!
# The commands of a bot and who answers to them

Whatever is done to the commands of a bot, and whatever is refused, its registry and its host stay
in step, although the host moves callbacks about when the event is destroyed and created again.

* `Bot.roster` is the view: what each name stands for.  `Roster.after` says what an answered call
  does to it, and `Roster.Refuses` why a call is refused.
* `Bot.Consistent.carried`: what each call does, and what it answers.
* `Bot.commands_in_step`: after any history, the callbacks that answer to a name are the one that
  the roster asks for, the list of commands is the roster in order, and calls that are refused or
  answered with `false` change nothing.
-/

namespace ChatBot

/-! ### Calls -/

/-- What is done to the commands of a bot, or to its host. -/
inductive BotEdit where
  /-- Adds a command, with what came of compiling its pattern. -/
  | add (name description : String) (command : Command) (pattern : Except String Unit := .ok ())
  /-- Reserves a name for a command that is answered elsewhere. -/
  | reserve (owner name description : String)
  /-- Removes a command. -/
  | remove (name : String)
  /-- Changes the host. -/
  | host (edit : HostEdit Handler)

/-- The change has nothing to do with the callbacks of commands, unless it is the bot's own. -/
def BotEdit.IsUnrelated : BotEdit → Prop
  | .add _ _ _ _ | .reserve _ _ _ | .remove _ => True
  | .host e => e.Misses Callback.isCommand

namespace Bot

/-- Carries out a change, with the answer: whether there was anything to do. -/
def edit (b : Bot) : BotEdit → Except BotError Bool × Bot
  | .add name description command pattern =>
    ((b.addCommand name description command pattern).1.map fun _ => true,
      (b.addCommand name description command pattern).2)
  | .reserve owner name description => b.registerCommand owner name description
  | .remove name => (.ok (b.unregisterCommand name).1, (b.unregisterCommand name).2)
  | .host e =>
    (((b.host.edit e).map fun _ => true).mapError .event, { b with host := b.host.afterEdit e })

/-- The bot after several changes, one after the other. -/
def afterEdits (b : Bot) (es : List BotEdit) : Bot := es.foldl (fun b e => (b.edit e).2) b

/-- Several changes, with what was answered to each of them. -/
def transcript (b : Bot) : List BotEdit → List (BotEdit × Except BotError Bool)
  | [] => []
  | e :: es => (e, (b.edit e).1) :: (b.edit e).2.transcript es

end Bot

/-! ### Rosters -/

/-- What a name stands for: who registered it, with which description, and what answers to it here,
if anything does. -/
structure Billing where
  owner : String
  description : String
  command : Option Command

/-- What every name stands for. -/
abbrev Roster := String → Option Billing

namespace Roster

/-- The roster after a change with its answer. -/
def after (r : Roster) : BotEdit → Except BotError Bool → Roster
  | .add name description command _, .ok _ =>
    Function.update r name (some ⟨name, description, some command⟩)
  | .reserve owner name description, .ok true =>
    Function.update r name (some ⟨owner, description, none⟩)
  | .remove name, .ok true => Function.update r name none
  | _, _ => r

/-- The roster that a history of changes leads to. -/
def ofTranscript (t : List (BotEdit × Except BotError Bool)) : Roster :=
  t.foldl (fun r p => r.after p.1 p.2) fun _ => none

/-- Why a call is refused, where `schema?` are the parameters of `on_message` if it exists. -/
inductive Refuses (r : Roster) (schema? : Option Schema) : BotEdit → BotError → Prop where
  | invalidAdd {name description : String} {command : Command} {pattern : Except String Unit}
      (h : isCommandName name = false) :
      Refuses r schema? (.add name description command pattern)
        (.command (.invalidName ⟨name, notOneWord⟩))
  | invalidReserve {owner name description : String} (h : isCommandName name = false) :
      Refuses r schema? (.reserve owner name description)
        (.command (.invalidName ⟨name, notOneWord⟩))
  | taken {name description : String} {command : Command} {pattern : Except String Unit}
      (h : r name ≠ none) :
      Refuses r schema? (.add name description command pattern)
        (.command (.alreadyRegistered name))
  | uncompiled {name description : String} {command : Command} {reason : String} :
      Refuses r schema? (.add name description command (.error reason))
        (.command (.invalidName ⟨name, reason⟩))
  | unfit {name description : String} {command : Command} {pattern : Except String Unit}
      {s : Schema} (hs : schema? = some s) (hm : ¬ Schema.ofMessage.Matches s) :
      Refuses r schema? (.add name description command pattern)
        (.event (.signature CoreEvent.onMessage.name "target" s Schema.ofMessage))

/-- Where a call has nothing to do. -/
inductive Idles (r : Roster) : BotEdit → Prop where
  | taken {owner name description : String} (hn : isCommandName name = true) (h : r name ≠ none) :
      Idles r (.reserve owner name description)
  | absent {name : String} (h : r name = none) : Idles r (.remove name)

end Roster

/-! ### What calls do -/

namespace Bot

variable {b b' : Bot}

/-- What is known about a name. -/
def billing (b : Bot) (g : Registration Handler) : Billing where
  owner := g.info.owner
  description := g.info.description
  command := ((g.callback.bind (·.command?)).bind b.installation?).map (·.command)

/-- What the names of a bot stand for. -/
def roster (b : Bot) : Roster := fun name => (b.registry.get? name).map b.billing

theorem roster_of_grows (hb : b.Consistent) (hg : b.Grows b') (hr : b'.registry = b.registry) :
    b'.roster = b.roster := by
  funext name
  rw [roster, roster, hr]
  cases hget : b.registry.get? name with
  | none => rfl
  | some g =>
      rw [Option.map_some, Option.map_some, billing, billing]
      cases hcall : g.callback with
      | none => rfl
      | some c =>
          obtain ⟨serial, command, rfl, hi⟩ := hb.attached name g c hget hcall
          simp only [Option.bind_some, command?_commandCallback, hi, hg.installed serial _ hi]

/-! ### Each call -/

theorem registerCommand_eq (b : Bot) (owner name description : String) :
    b.registerCommand owner name description =
      if isCommandName name = false then (.error (.command (.invalidName ⟨name, notOneWord⟩)), b)
      else match b.registry.get? name with
        | some _ => (.ok false, b)
        | none =>
          (.ok true,
            { b with registry := b.registry.set name ⟨⟨name, owner, description⟩, none⟩ }) := by
  rw [registerCommand, Registry.register, Directory.contains]
  cases isCommandName name with
  | false => rfl
  | true => cases b.registry.get? name <;> rfl

theorem unregisterCommand_eq (b : Bot) (name : String) :
    b.unregisterCommand name = match b.registry.get? name with
      | none => (false, b)
      | some g => (true, { b with
          registry := b.registry.erase name
          host := g.callback.elim b.host (b.host.unsubscribe CoreEvent.onMessage.name) }) := by
  rw [unregisterCommand, Registry.unregister]
  cases hg : b.registry.get? name with
  | none => simp only [Directory.erase_of_get?_eq_none hg]
  | some g => rfl

theorem addCommand_eq (b : Bot) (name description : String) (command : Command)
    (pattern : Except String Unit) :
    b.addCommand name description command pattern =
      if isCommandName name = false then (.error (.command (.invalidName ⟨name, notOneWord⟩)), b)
      else match b.registry.get? name, pattern with
        | some _, _ => (.error (.command (.alreadyRegistered name)), b)
        | none, .error reason => (.error (.command (.invalidName ⟨name, reason⟩)), b)
        | none, .ok () =>
          match b.host.subscribe CoreEvent.onMessage.name (commandCallback b.minted) with
          | .error e => (.error (.event e), (b.install ⟨name, command⟩).2)
          | .ok host => (.ok (), { (b.install ⟨name, command⟩).2 with
              host := host
              registry := b.registry.set name
                ⟨⟨name, name, description⟩, some (commandCallback b.minted)⟩ }) := by
  rw [addCommand, registerCommand_eq]
  cases isCommandName name with
  | false => rfl
  | true =>
      cases hg : b.registry.get? name with
      | some g => rfl
      | none =>
          cases pattern with
          | error reason =>
              simp only [Bool.true_eq_false, if_false, Registry.unregister,
                Directory.erase_set_of_get?_eq_none hg]
          | ok =>
              simp only [Bool.true_eq_false, if_false, Bot.install, Bot.subscribe]
              cases b.host.subscribe CoreEvent.onMessage.name (commandCallback b.minted) with
              | error e =>
                  simp only [Registry.unregister, Directory.erase_set_of_get?_eq_none hg]
              | ok host =>
                  simp only [Registry.attach, Directory.get?_set_self, Directory.set_set]

/-- Commands are served on messages only. -/
theorem check_commandCallback (serial : Nat) (event : String) (s : Schema) :
    (commandCallback serial).check event s =
      if Schema.ofMessage.fits s then .ok ()
      else .error (.signature event "target" s Schema.ofMessage) := by
  cases hf : Schema.ofMessage.fits s <;>
    simp [Callback.check, Callback.misfits, Callback.parts, commandCallback, hf]

/-- Why a command cannot be served. -/
theorem subscribe_commandCallback_error {h : Host Handler} {name : String} {serial : Nat}
    {e : EventError} (he : h.subscribe name (commandCallback serial) = .error e) :
    ∃ s, h.schema? name = some s ∧ ¬ Schema.ofMessage.Matches s ∧
      e = .signature name "target" s Schema.ofMessage := by
  rw [Host.subscribe] at he
  cases hev : h.events.get? name with
  | none => rw [hev] at he; cases he
  | some event =>
      simp only [hev, check_commandCallback] at he
      by_cases hf : Schema.ofMessage.fits event.schema = true
      · rw [if_pos hf] at he
        cases he
      · rw [if_neg hf] at he
        cases he
        have hs : h.schema? name = some event.schema := by
          rw [Host.schema?, hev]
          rfl
        exact ⟨event.schema, hs, fun hm => hf ((Schema.fits_iff _ _).mpr hm), rfl⟩

theorem subscribe_commandCallback_ok {h host : Host Handler} {name : String} {serial : Nat}
    {s : Schema} (hc : h.subscribe name (commandCallback serial) = .ok host)
    (hs : h.schema? name = some s) : Schema.ofMessage.Matches s :=
  Host.subscribe_ok hc hs ("target", (commandCallback serial).target) List.mem_cons_self

/-- What is said about a name changes with its registration. -/
theorem roster_set (b : Bot) (host : Host Handler) (name : String) (g : Registration Handler) :
    ({ b with host := host, registry := b.registry.set name g } : Bot).roster =
      Function.update b.roster name (some (b.billing g)) := by
  funext other
  rw [roster, Directory.get?_set]
  by_cases ho : other = name
  · subst ho
    rw [if_pos rfl, Function.update_self]
    rfl
  · rw [if_neg (Ne.symm ho), Function.update_of_ne ho]
    rfl

theorem roster_erase (b : Bot) (host : Host Handler) (name : String) :
    ({ b with host := host, registry := b.registry.erase name } : Bot).roster =
      Function.update b.roster name none := by
  funext other
  rw [roster, Directory.get?_erase]
  by_cases ho : other = name
  · subst ho
    rw [if_pos rfl, Function.update_self]
    rfl
  · rw [if_neg (Ne.symm ho), Function.update_of_ne ho]
    rfl

theorem roster_eq_none_iff {name : String} :
    b.roster name = none ↔ b.registry.get? name = none := Option.map_eq_none_iff

/-- What a call does, and what it answers. -/
structure Carried (b : Bot) (e : BotEdit) (answer : Except BotError Bool) (b' : Bot) : Prop where
  consistent : b'.Consistent
  grows : b.Grows b'
  roster : b'.roster = b.roster.after e answer
  refused : ∀ error, answer = .error error → b'.registry = b.registry ∧
    ((∀ k, e ≠ .host k) → b'.host = b.host ∧
      b.roster.Refuses (b.host.schema? CoreEvent.onMessage.name) e error)
  accepted : ∀ done, answer = .ok done →
    ∀ error, ¬ b.roster.Refuses (b.host.schema? CoreEvent.onMessage.name) e error
  idle : answer = .ok false → b' = b

/-- A call that is refused. -/
theorem Carried.refuse {b' : Bot} {e : BotEdit} {error : BotError} (hb : b'.Consistent)
    (hg : b.Grows b') (hr : b'.roster = b.roster)
    (hs : b'.registry = b.registry ∧ b'.host = b.host)
    (h : b.roster.Refuses (b.host.schema? CoreEvent.onMessage.name) e error) :
    b.Carried e (.error error) b' where
  consistent := hb
  grows := hg
  roster := by cases e <;> exact hr
  refused error' he := by
    cases he
    exact ⟨hs.1, fun _ => ⟨hs.2, h⟩⟩
  accepted _ h := nomatch h
  idle h := nomatch h

/-- A call that has nothing to do. -/
theorem Carried.pass {e : BotEdit} (hb : b.Consistent)
    (hr : b.roster = b.roster.after e (.ok false))
    (hnot : ∀ error, ¬ b.roster.Refuses (b.host.schema? CoreEvent.onMessage.name) e error) :
    b.Carried e (.ok false) b where
  consistent := hb
  grows := .refl b
  roster := hr
  refused _ h := nomatch h
  accepted _ _ := hnot
  idle _ := rfl

/-- A call that is carried out. -/
theorem Carried.accept {b' : Bot} {e : BotEdit} (hb : b'.Consistent) (hg : b.Grows b')
    (hr : b'.roster = b.roster.after e (.ok true))
    (hnot : ∀ error, ¬ b.roster.Refuses (b.host.schema? CoreEvent.onMessage.name) e error) :
    b.Carried e (.ok true) b' where
  consistent := hb
  grows := hg
  roster := hr
  refused _ h := nomatch h
  accepted _ _ := hnot
  idle h := nomatch h

theorem Consistent.carried_reserve (hb : b.Consistent) (owner name description : String) :
    b.Carried (.reserve owner name description) (b.registerCommand owner name description).1
      (b.registerCommand owner name description).2 := by
  rw [registerCommand_eq]
  cases hn : isCommandName name with
  | false => exact .refuse hb (.refl b) rfl ⟨rfl, rfl⟩ (.invalidReserve hn)
  | true =>
      have hnot (error : BotError) : ¬ b.roster.Refuses (b.host.schema? CoreEvent.onMessage.name)
          (.reserve owner name description) error := by
        rintro ⟨⟩
        simp_all
      cases hg : b.registry.get? name with
      | some g => exact .pass hb rfl hnot
      | none =>
          refine .accept ?_ ⟨fun _ _ h => h, Nat.le_refl _, rfl⟩ (roster_set b b.host name _) hnot
          exact hb.of_set hn hg rfl hb.separated (fun c hc => (by cases hc)) fun event => by simp

theorem Consistent.carried_remove (hb : b.Consistent) (name : String) :
    b.Carried (.remove name) (.ok (b.unregisterCommand name).1) (b.unregisterCommand name).2 := by
  have hnot (error : BotError) :
      ¬ b.roster.Refuses (b.host.schema? CoreEvent.onMessage.name) (.remove name) error := by
    rintro ⟨⟩
  rw [unregisterCommand_eq]
  cases hg : b.registry.get? name with
  | none => exact .pass hb rfl hnot
  | some g =>
      have hs : (g.callback.elim b.host
          (b.host.unsubscribe CoreEvent.onMessage.name)).Separated := by
        cases g.callback with
        | none => exact hb.separated
        | some c => exact hb.separated.unsubscribe _ c
      refine .accept (hb.of_erase hg hs fun event => ?_) ⟨fun _ _ h => h, Nat.le_refl _, rfl⟩
        (roster_erase b _ name) hnot
      cases g.callback with
      | none => simp
      | some c => exact Host.callbacks_unsubscribe hb.separated _ c event

theorem Consistent.carried_add (hb : b.Consistent) (name description : String)
    (command : Command) (pattern : Except String Unit) :
    b.Carried (.add name description command pattern)
      ((b.addCommand name description command pattern).1.map fun _ => true)
      (b.addCommand name description command pattern).2 := by
  have hi := hb.install ⟨name, command⟩
  have hgi := hb.grows_install ⟨name, command⟩
  have hri : (b.install ⟨name, command⟩).2.roster = b.roster := roster_of_grows hb hgi rfl
  rw [addCommand_eq]
  cases hn : isCommandName name with
  | false => exact .refuse hb (.refl b) rfl ⟨rfl, rfl⟩ (.invalidAdd hn)
  | true =>
      cases hg : b.registry.get? name with
      | some g =>
          refine .refuse hb (.refl b) rfl ⟨rfl, rfl⟩ (.taken fun h => ?_)
          rw [roster_eq_none_iff, hg] at h
          cases h
      | none =>
          simp only [Bool.true_eq_false, if_false]
          cases pattern with
          | error reason => exact .refuse hb (.refl b) rfl ⟨rfl, rfl⟩ .uncompiled
          | ok =>
              cases hc : b.host.subscribe CoreEvent.onMessage.name (commandCallback b.minted) with
              | error e =>
                  obtain ⟨s, hs, hm, rfl⟩ := subscribe_commandCallback_error hc
                  exact .refuse hi hgi hri ⟨rfl, rfl⟩ (.unfit hs hm)
              | ok host =>
                  have hinst : (b.install ⟨name, command⟩).2.installation? b.minted =
                      some ⟨name, command⟩ := by
                    rw [installation?_install, if_pos rfl]
                  refine .accept ?_ (hgi.trans ⟨fun _ _ h => h, Nat.le_refl _, rfl⟩) ?_
                    fun error hr => ?_
                  · refine hi.of_set hn hg rfl (hb.separated.subscribe hc) (fun c hcc => ?_)
                      fun event => Host.callbacks_subscribe hb.separated hc event
                    cases hcc
                    exact ⟨b.minted, command, rfl, hinst⟩
                  · refine (roster_set _ host name _).trans ?_
                    rw [hri, billing, Option.bind_some, command?_commandCallback,
                      Option.bind_some, hinst]
                    rfl
                  · cases hr with
                    | invalidAdd h => rw [hn] at h; cases h
                    | taken h => exact h (roster_eq_none_iff.mpr hg)
                    | unfit hs hm => exact hm (subscribe_commandCallback_ok hc hs)

theorem Consistent.carried_host (hb : b.Consistent) {k : HostEdit Handler}
    (hk : k.Misses Callback.isCommand) :
    b.Carried (.host k) (((b.host.edit k).map fun _ => true).mapError .event)
      { b with host := b.host.afterEdit k } := by
  have hg : b.Grows { b with host := b.host.afterEdit k } := ⟨fun _ _ h => h, Nat.le_refl _, rfl⟩
  exact
    { consistent := hb.of_grows hg rfl hb.numbered (hb.separated.afterEdit k) fun event =>
        Host.filter_afterEdit_of_misses hb.separated hk event
      grows := hg
      roster := by
        rw [roster_of_grows hb hg rfl]
        cases b.host.edit k <;> rfl
      refused := fun error _ => ⟨rfl, fun h => absurd rfl (h k)⟩
      accepted := fun done _ error hr => (by cases hr)
      idle := fun h => by
        cases hr : b.host.edit k with
        | error e => rw [hr] at h; cases h
        | ok host => rw [hr] at h; cases h }

/-- **Every call keeps registry and host in step.** -/
theorem Consistent.carried (hb : b.Consistent) {e : BotEdit} (he : e.IsUnrelated) :
    b.Carried e (b.edit e).1 (b.edit e).2 := by
  cases e with
  | add name description command pattern =>
      exact hb.carried_add name description command pattern
  | reserve owner name description => exact hb.carried_reserve owner name description
  | remove name => exact hb.carried_remove name
  | host k => exact hb.carried_host he

/-- The commands of a bot come and go, and nobody else listens for messages because of it. -/
theorem Consistent.isCommand_of_edit (hb : b.Consistent) {e : BotEdit} (he : ∀ k, e ≠ .host k)
    (h : ∀ c ∈ (b.host.register CoreEvent.onMessage.name).callbacks, c.isCommand = true) :
    ∀ c ∈ ((b.edit e).2.host.register CoreEvent.onMessage.name).callbacks, c.isCommand = true := by
  cases e with
  | add name description command pattern =>
      rw [edit, addCommand_eq]
      split
      · exact h
      · split
        · exact h
        · exact h
        · split
          · exact h
          · rename_i host hs
            intro c hc
            change c ∈ (host.register _).callbacks at hc
            rw [Host.callbacks_subscribe hb.separated hs, if_pos rfl] at hc
            rcases List.mem_append.mp hc with hc | hc
            · exact h c hc
            · rw [List.mem_singleton.mp hc]
              rfl
  | reserve owner name description =>
      rw [edit, registerCommand_eq]
      split
      · exact h
      · split <;> exact h
  | remove name =>
      rw [edit, unregisterCommand_eq]
      split
      · exact h
      · rename_i g hg
        intro c hc
        cases hcall : g.callback with
        | none =>
            rw [hcall] at hc
            exact h c hc
        | some c' =>
            rw [hcall] at hc
            change c ∈ ((b.host.unsubscribe CoreEvent.onMessage.name c').register _).callbacks at hc
            rw [Host.callbacks_unsubscribe hb.separated, if_pos rfl] at hc
            exact h c (List.mem_of_mem_erase hc)
  | host k => exact absurd rfl (he k)

/-- When a call has nothing to do. -/
theorem edit_eq_false_iff (b : Bot) (e : BotEdit) :
    (b.edit e).1 = .ok false ↔ b.roster.Idles e := by
  cases e with
  | add name description command pattern =>
      refine ⟨fun h => ?_, fun h => nomatch h⟩
      rw [edit] at h
      cases hr : (b.addCommand name description command pattern).1 <;> rw [hr] at h <;> cases h
  | reserve owner name description =>
      rw [edit, registerCommand_eq]
      cases hn : isCommandName name with
      | false =>
          refine ⟨fun h => (by cases h), fun h => ?_⟩
          cases h with
          | taken hn' _ => rw [hn] at hn'; cases hn'
      | true =>
          cases hg : b.registry.get? name with
          | some g =>
              refine ⟨fun _ => .taken hn fun h => ?_, fun _ => rfl⟩
              rw [roster_eq_none_iff, hg] at h
              cases h
          | none =>
              refine ⟨fun h => (by cases h), fun h => ?_⟩
              cases h with
              | taken _ h => exact absurd (roster_eq_none_iff.mpr hg) h
  | remove name =>
      rw [edit, unregisterCommand_eq]
      cases hg : b.registry.get? name with
      | none => exact ⟨fun _ => .absent (roster_eq_none_iff.mpr hg), fun _ => rfl⟩
      | some g =>
          refine ⟨fun h => (by cases h), fun h => ?_⟩
          cases h with
          | absent h => rw [roster_eq_none_iff, hg] at h; cases h
  | host k =>
      refine ⟨fun h => ?_, fun h => nomatch h⟩
      rw [edit] at h
      cases hr : b.host.edit k <;> rw [hr] at h <;> cases h

/-! ### Histories -/

/-- Only what is in order makes a bot. -/
theorem validate_of_ofConfig {config : Config} (hb : Bot.ofConfig config = .ok b) :
    config.validate = .ok () := by
  rw [Bot.ofConfig] at hb
  cases hv : config.validate with
  | error e => rw [hv] at hb; cases hb
  | ok u => rfl

/-- A new bot has nothing but its configuration and a host where nobody listens. -/
theorem ofConfig_ok {config : Config} (hb : Bot.ofConfig config = .ok b) :
    ∃ host : Host Handler, b = { config := config, host := host } ∧ host.Separated ∧
      ∀ event, (host.register event).callbacks = [] := by
  rw [Bot.ofConfig] at hb
  cases hv : config.validate with
  | error e => rw [hv] at hb; cases hb
  | ok u =>
      rw [hv] at hb
      cases hf : CoreEvent.all.foldlM
          (fun (h : Host Handler) e => h.create e.name e.schema) Host.empty with
      | error e => rw [hf] at hb; cases hb
      | ok host =>
          rw [hf] at hb
          cases hb
          exact ⟨host, rfl, separated_of_foldlM Host.separated_empty (fun _ => rfl) hf⟩

theorem consistent_ofConfig {config : Config} (hb : Bot.ofConfig config = .ok b) :
    b.Consistent ∧ b.roster = fun _ => none := by
  obtain ⟨host, rfl, hs, hl⟩ := ofConfig_ok hb
  exact ⟨consistent_of_idle hs rfl rfl hl, rfl⟩

theorem carried_afterEdits (hb : b.Consistent) {es : List BotEdit} (he : ∀ e ∈ es, e.IsUnrelated) :
    (b.afterEdits es).Consistent ∧ (b.afterEdits es).roster =
      (b.transcript es).foldl (fun r p => r.after p.1 p.2) b.roster := by
  induction es generalizing b with
  | nil => exact ⟨hb, rfl⟩
  | cons e es ih =>
      rw [List.forall_mem_cons] at he
      have hc := hb.carried he.1
      obtain ⟨h₁, h₂⟩ := ih hc.consistent he.2
      refine ⟨h₁, h₂.trans ?_⟩
      rw [hc.roster]
      rfl

theorem grows_afterEdits (hb : b.Consistent) {es : List BotEdit} (he : ∀ e ∈ es, e.IsUnrelated) :
    b.Grows (b.afterEdits es) := by
  induction es generalizing b with
  | nil => exact .refl b
  | cons e es ih =>
      rw [List.forall_mem_cons] at he
      have hc := hb.carried he.1
      exact hc.grows.trans (ih hc.consistent he.2)

/-- The callbacks that answer to a name. -/
theorem Consistent.callbacks_eq (hb : b.Consistent) (name : String) :
    match (b.roster name).bind (·.command) with
    | some command => ∃ serial,
        (b.callbacks .onMessage).filter (b.answersTo name) = [commandCallback serial] ∧
          b.installation? serial = some ⟨name, command⟩
    | none => (b.callbacks .onMessage).filter (b.answersTo name) = [] := by
  have hl := hb.listed name
  change (b.callbacks .onMessage).filter (b.answersTo name) = _ at hl
  rw [hl]
  cases hg : b.registry.get? name with
  | none => simp [roster, hg]
  | some g =>
      cases hc : g.callback with
      | none => simp [roster, hg, billing, hc]
      | some c =>
          obtain ⟨serial, command, rfl, hi⟩ := hb.attached name g c hg hc
          simp only [roster, hg, billing, hc, hi, Option.map_some, Option.bind_some,
            command?_commandCallback, Option.toList_some]
          exact ⟨serial, rfl, hi⟩

/-- The list of commands is the roster. -/
theorem Consistent.commands_eq (hb : b.Consistent) :
    b.commands.Pairwise (·.name < ·.name) ∧ ∀ info, info ∈ b.commands ↔
      ∃ billing, b.roster info.name = some billing ∧
        info = ⟨info.name, billing.owner, billing.description⟩ := by
  have hmem (name : String) (g : Registration Handler) :
      (name, g) ∈ b.registry.entries ↔ b.registry.get? name = some g := hb.sorted.mem_entries_iff
  rw [commands, Registry.list, Directory.values, List.map_map]
  constructor
  · rw [List.pairwise_map]
    refine (Directory.sorted_iff.mp hb.sorted).imp_of_mem fun {p q} hp hq hlt => ?_
    rw [Function.comp_apply, Function.comp_apply, (hb.titled _ _ ((hmem _ _).mp hp)).1,
      (hb.titled _ _ ((hmem _ _).mp hq)).1]
    exact hlt
  · intro info
    rw [List.mem_map]
    constructor
    · rintro ⟨⟨name, g⟩, hp, rfl⟩
      have hg := (hmem name g).mp hp
      have ht := (hb.titled name g hg).1
      refine ⟨b.billing g, ?_, rfl⟩
      rw [Function.comp_apply, ht, roster, hg]
      rfl
    · rintro ⟨billing, hr, hi⟩
      obtain ⟨g, hg, rfl⟩ := Option.map_eq_some_iff.mp hr
      refine ⟨(info.name, g), (hmem _ _).mpr hg, ?_⟩
      rw [hi, ← (hb.titled _ g hg).1]
      rfl

/-- **Registry and host stay in step.**  After any calls to a new bot, answered or refused, while
the rest of the world does what it likes with the events and with callbacks of its own:

* a name that was added and not removed since is served by one callback on `on_message`, active or
  parked, which runs what was added; any other name is served by none;
* the commands are listed with the owner and the description of the registration that succeeded,
  each once and in increasing order;
* a further call is refused exactly for a name that is no word or is taken, if its pattern could not
  be compiled, or if `on_message` now has other parameters, and answered with `false` exactly where
  it has nothing to do; neither of them changes the registry or a callback. -/
theorem commands_in_step {config : Config} {b₀ : Bot} (hb : Bot.ofConfig config = .ok b₀)
    {es : List BotEdit} (he : ∀ e ∈ es, e.IsUnrelated) :
    let b := b₀.afterEdits es
    let r := Roster.ofTranscript (b₀.transcript es)
    (∀ name, match (r name).bind (·.command) with
      | some command => ∃ serial,
          (b.callbacks .onMessage).filter (b.answersTo name) = [commandCallback serial] ∧
            b.installation? serial = some ⟨name, command⟩
      | none => (b.callbacks .onMessage).filter (b.answersTo name) = []) ∧
    (b.commands.Pairwise (·.name < ·.name) ∧ ∀ info, info ∈ b.commands ↔
      ∃ billing, r info.name = some billing ∧
        info = ⟨info.name, billing.owner, billing.description⟩) ∧
    ∀ e : BotEdit, (∀ k, e ≠ .host k) →
      (∀ error, (b.edit e).1 = .error error →
        r.Refuses (b.host.schema? CoreEvent.onMessage.name) e error ∧
          (b.edit e).2.registry = b.registry ∧ (b.edit e).2.host = b.host) ∧
      (∀ error, r.Refuses (b.host.schema? CoreEvent.onMessage.name) e error →
        ∃ error, (b.edit e).1 = .error error) ∧
      ((b.edit e).1 = .ok false ↔ r.Idles e) ∧
      ((b.edit e).1 = .ok false → (b.edit e).2 = b) := by
  intro b r
  obtain ⟨hc, hr⟩ := consistent_ofConfig hb
  obtain ⟨hc, hr'⟩ := carried_afterEdits hc he
  have hroster : b.roster = r := by
    rw [hr] at hr'
    exact hr'
  rw [← hroster]
  refine ⟨hc.callbacks_eq, hc.commands_eq, fun e hk => ?_⟩
  have hu : e.IsUnrelated := by
    cases e with
    | host k => exact absurd rfl (hk k)
    | _ => trivial
  have hcarried := hc.carried hu
  refine ⟨fun error h => ?_, fun error h => ?_, b.edit_eq_false_iff e, hcarried.idle⟩
  · obtain ⟨hreg, hrest⟩ := hcarried.refused error h
    exact ⟨(hrest hk).2, hreg, (hrest hk).1⟩
  · cases ha : (b.edit e).1 with
    | error error => exact ⟨error, rfl⟩
    | ok done => exact absurd h (hcarried.accepted done ha error)

namespace Sample

/-- A bot without commands. -/
def bare : Bot := (Bot.ofConfig {}).toOption.getD {}

/-- A command comes and goes while its event does not exist; another one is refused at first, and
waits for the event. -/
def edits : List BotEdit :=
  [.add "help" "" .help, .host (.destroy "on_message"), .remove "help",
    .host (.create "on_message" ⟨["other"]⟩), .add "echo" "" .echo,
    .host (.destroy "on_message"), .add "echo" "Says it again" .echo,
    .host (.create "on_message" Schema.ofMessage), .reserve "someone" "echo" ""]

end Sample

theorem commands_in_step_sample :
    Bot.ofConfig {} = .ok Sample.bare ∧ (∀ e ∈ Sample.edits, e.IsUnrelated) ∧
      ∃ serial, ((Sample.bare.afterEdits Sample.edits).callbacks .onMessage).filter
        ((Sample.bare.afterEdits Sample.edits).answersTo "echo") = [commandCallback serial] := by
  have hb : Bot.ofConfig {} = .ok Sample.bare := rfl
  have he : ∀ e ∈ Sample.edits, e.IsUnrelated := by
    simp [Sample.edits, BotEdit.IsUnrelated, HostEdit.Misses]
  obtain ⟨hserved, -, -⟩ := commands_in_step hb he
  obtain ⟨serial, hs, -⟩ := hserved "echo"
  exact ⟨hb, he, serial, hs⟩

end Bot

end ChatBot
