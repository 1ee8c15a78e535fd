import ChatBot.Command.Invocation
import ChatBot.Proofs.Bot.Roster
import ChatBot.Proofs.Event.Fire

/-!
# Who is called by a message

A message calls a command when it starts the way the command is called and a word ends there.  Names
are single words, so no text calls two of them, and a bot whose messages are heard by commands only
starts one command or none.

* `Invocation.isSome_arguments?_iff`: what it is to call a name.
* `Invocation.Calls.unique`: a text calls one name at most.
* `Bot.Consistent.launches_onMessage`: what a message starts.
-/

namespace ChatBot

/-! ### Texts that call a name -/

namespace Invocation

/-- A text starts the way the command `name` is called, and no word goes on there. -/
def Calls (opening name text : String) : Prop :=
  ∃ rest : List Char, text.toList = opening.toList ++ name.toList ++ rest ∧
    ∀ c ∈ rest.head?, Text.isSpace c = true

theorem rest?_append (called rest : List Char) :
    rest? called (called ++ rest) =
      match rest with
      | [] => some []
      | c :: rest => if Text.isSpace c then some rest else none := by
  rewrite [rest?, if_pos (List.isPrefixOf_iff_prefix.mpr (List.prefix_append _ _)), List.drop_left]
  rfl

theorem rest?_eq_some_iff {called text args : List Char} :
    rest? called text = some args ↔
      text = called ∧ args = [] ∨ ∃ c, Text.isSpace c = true ∧ text = called ++ c :: args := by
  constructor
  · intro h
    rw [rest?] at h
    split at h
    · rename_i hp
      obtain ⟨rest, rfl⟩ := List.isPrefixOf_iff_prefix.mp hp
      rw [List.drop_left] at h
      cases rest with
      | nil =>
          cases h
          exact .inl ⟨List.append_nil called, rfl⟩
      | cons c rest =>
          dsimp only at h
          split at h
          · rename_i hs
            cases h
            exact .inr ⟨c, hs, rfl⟩
          · cases h
    · cases h
  · rintro (⟨rfl, rfl⟩ | ⟨c, hs, rfl⟩)
    · have hr := rest?_append text []
      rwa [List.append_nil] at hr
    · rw [rest?_append]
      exact if_pos hs

theorem isSome_rest?_iff (called text : List Char) :
    (rest? called text).isSome ↔
      ∃ rest, text = called ++ rest ∧ ∀ c ∈ rest.head?, Text.isSpace c = true := by
  rw [Option.isSome_iff_exists]
  simp only [rest?_eq_some_iff]
  constructor
  · rintro ⟨args, ⟨rfl, -⟩ | ⟨c, hc, rfl⟩⟩
    · exact ⟨[], by simp⟩
    · exact ⟨c :: args, by simpa using hc⟩
  · rintro ⟨rest, rfl, hr⟩
    cases rest with
    | nil => exact ⟨[], by simp⟩
    | cons c args => exact ⟨args, .inr ⟨c, hr c rfl, rfl⟩⟩

theorem isSome_arguments?_iff (opening name text : String) :
    (arguments? opening name text).isSome ↔ Calls opening name text := by
  rw [arguments?, Option.isSome_map, isSome_rest?_iff, Calls]

theorem not_isSpace_of_isCommandName {name : String} (hn : isCommandName name = true) {c : Char}
    (hc : c ∈ name.toList) : Text.isSpace c = false := by
  rw [isCommandName, Bool.and_eq_true, Bool.not_eq_true', Bool.not_eq_true',
    List.any_eq_false] at hn
  exact Bool.eq_false_iff.mpr (hn.2 c hc)

theorem toList_ne_nil_of_isCommandName {name : String} (hn : isCommandName name = true) :
    name.toList ≠ [] := by
  rintro h
  rw [String.toList_eq_nil_iff.mp h] at hn
  cases hn

/-- Of two names that a text starts with, neither goes on where the other one ends. -/
theorem eq_of_append_eq {cs ds rest rest' : List Char} (h : cs ++ rest = ds ++ rest')
    (hr : ∀ c ∈ rest.head?, Text.isSpace c = true) (hd : ∀ c ∈ ds, Text.isSpace c = false)
    (hl : cs.length ≤ ds.length) : cs = ds := by
  obtain ⟨more, rfl⟩ : cs <+: ds :=
    List.prefix_of_prefix_length_le (List.prefix_append _ _) (h ▸ List.prefix_append ds rest') hl
  rw [List.append_assoc, List.append_cancel_left_eq] at h
  cases more with
  | nil => exact (List.append_nil cs).symm
  | cons c more =>
      have hs : Text.isSpace c = true := hr c (by rw [h]; rfl)
      rw [hd c (List.mem_append_right _ List.mem_cons_self)] at hs
      cases hs

/-- **No text calls two names.** -/
theorem Calls.unique {opening name name' text : String} (h : Calls opening name text)
    (h' : Calls opening name' text) (hn : isCommandName name = true)
    (hn' : isCommandName name' = true) : name = name' := by
  obtain ⟨rest, ht, hr⟩ := h
  obtain ⟨rest', ht', hr'⟩ := h'
  rw [ht, List.append_assoc, List.append_assoc, List.append_cancel_left_eq] at ht'
  refine String.toList_inj.mp ?_
  rcases Nat.le_total name.toList.length name'.toList.length with hl | hl
  · exact eq_of_append_eq ht' hr (fun c => not_isSpace_of_isCommandName hn') hl
  · exact (eq_of_append_eq ht'.symm hr' (fun c => not_isSpace_of_isCommandName hn) hl).symm

end Invocation

/-! ### Messages that call a command -/

namespace Bot

variable {b : Bot}

/-- A message calls the command that is served here under `name`. -/
def IsCalled (b : Bot) (name : String) (m : Message) : Prop :=
  (∃ command, (b.roster name).bind (·.command) = some command) ∧
    ∃ text, m.body = .text text ∧ Invocation.Calls b.config.opening name text

theorem isSome_arguments?_iff (b : Bot) (name : String) (m : Message) :
    (b.arguments? name m).isSome ↔
      ∃ text, m.body = .text text ∧ Invocation.Calls b.config.opening name text := by
  rw [arguments?]
  cases m.body with
  | text text => simp [Invocation.isSome_arguments?_iff]
  | error reason => simp

/-- The name of a callback of a command stands for it. -/
theorem Consistent.served (hb : b.Consistent) {serial : Nat} {i : Installation}
    (hm : commandCallback serial ∈ (b.host.register CoreEvent.onMessage.name).callbacks)
    (hi : b.installation? serial = some i) :
    (b.roster i.name).bind (·.command) = some i.command := by
  have ha : b.answersTo i.name (commandCallback serial) = true := by simp [answersTo, hi]
  have hl := List.mem_filter.mpr ⟨hm, ha⟩
  rw [hb.listed i.name, Option.mem_toList, Option.bind_eq_some_iff] at hl
  obtain ⟨g, hg, hc⟩ := hl
  simp [roster, hg, billing, hc, hi]

/-- Only names are called. -/
theorem Consistent.isCommandName (hb : b.Consistent) {name : String} {m : Message}
    (h : b.IsCalled name m) : isCommandName name = true := by
  obtain ⟨⟨command, hr⟩, -⟩ := h
  cases hg : b.registry.get? name with
  | none => simp [roster, hg] at hr
  | some g => exact (hb.titled name g hg).2

theorem Consistent.isCalled_unique (hb : b.Consistent) {name name' : String} {m : Message}
    (h : b.IsCalled name m) (h' : b.IsCalled name' m) : name = name' := by
  obtain ⟨-, text, ht, hc⟩ := id h
  obtain ⟨-, text', ht', hc'⟩ := id h'
  rw [ht, Body.text.injEq] at ht'
  exact hc.unique (ht' ▸ hc') (hb.isCommandName h) (hb.isCommandName h')

/-- The callbacks of a bot have their turns one by one. -/
theorem dispatch_eq (b : Bot) (payload : Payload) (cs : List (Callback Handler)) :
    (b.conduct.dispatch payload cs ()).1 =
      cs.filterMap fun c => (b.conduct.consider payload c ()).1 := by
  induction cs with
  | nil => rfl
  | cons c cs ih =>
      rw [Conduct.dispatch, List.filterMap_cons]
      dsimp only
      rw [ih]
      cases (b.conduct.consider payload c ()).1 <;> rfl

/-- What a message does to the callback of a command. -/
theorem consider_commandCallback {serial : Nat} {i : Installation}
    (hi : b.installation? serial = some i) (m : Message) :
    (b.conduct.consider (Payload.ofMessage m) (commandCallback serial) ()).1 =
      (b.arguments? i.name m).map fun args =>
        ⟨.command serial, Payload.ofMessage (m.withText args)⟩ := by
  simp only [Conduct.consider, commandCallback, conduct, concerns, prepare, hi, Option.elim_some,
    Payload.message?_ofMessage]
  cases b.arguments? i.name m <;> rfl

/-- Whoever listens for messages is considered, in order. -/
theorem Consistent.launches_eq (hb : b.Consistent) {m : Message} {ls : List (Launch Handler)}
    (hl : b.launches CoreEvent.onMessage.name (Payload.ofMessage m) = .ok ls) :
    ls = (b.host.register CoreEvent.onMessage.name).callbacks.filterMap
      fun c => (b.conduct.consider (Payload.ofMessage m) c ()).1 := by
  rw [launches, Conduct.fire] at hl
  cases hli : b.host.listeners CoreEvent.onMessage.name (Payload.ofMessage m) with
  | error e => rw [hli] at hl; cases hl
  | ok cs =>
      obtain ⟨s, hs, -, rfl⟩ := Host.listeners_ok hli
      rw [hli] at hl
      cases hl
      have hp : b.host.parked CoreEvent.onMessage.name = [] :=
        hb.separated.parked_eq_nil (by rw [Host.contains_eq_isSome, hs]; rfl)
      rw [dispatch_eq, Host.register, hp, List.append_nil]

/-- A command stays where it is if it answers to no name that the message calls. -/
theorem Consistent.consider_eq_none (hb : b.Consistent) {c : Callback Handler} {m : Message}
    (hc : c ∈ (b.host.register CoreEvent.onMessage.name).callbacks) (hcommand : c.isCommand = true)
    (hno : ∀ name, b.IsCalled name m → b.answersTo name c = false) :
    (b.conduct.consider (Payload.ofMessage m) c ()).1 = none := by
  obtain ⟨serial, hs⟩ := Option.isSome_iff_exists.mp hcommand
  obtain ⟨rfl, i, hi⟩ := hb.known c hc serial hs
  rw [consider_commandCallback hi, Option.map_eq_none_iff]
  by_contra hsome
  have hcalls := (isSome_arguments?_iff b i.name m).mp (Option.isSome_iff_ne_none.mpr hsome)
  have hanswers := hno i.name ⟨⟨_, hb.served hc hi⟩, hcalls⟩
  simp [answersTo, hi] at hanswers

/-- **What a message starts.**  Where only commands listen, it is the one command that the message
calls, with what follows its name; without such a command nothing is started. -/
theorem Consistent.launches_onMessage (hb : b.Consistent)
    (ho : ∀ c ∈ (b.host.register CoreEvent.onMessage.name).callbacks, c.isCommand = true)
    {m : Message} {ls : List (Launch Handler)}
    (hl : b.launches CoreEvent.onMessage.name (Payload.ofMessage m) = .ok ls) :
    (∃ serial i args, b.IsCalled i.name m ∧ b.installation? serial = some i ∧
      b.arguments? i.name m = some args ∧
      ls = [⟨.command serial, Payload.ofMessage (m.withText args)⟩]) ∨
    (ls = [] ∧ ∀ name, ¬ b.IsCalled name m) := by
  rw [hb.launches_eq hl]
  by_cases hcalled : ∃ name, b.IsCalled name m
  · obtain ⟨name, hn⟩ := hcalled
    obtain ⟨⟨command, hroster⟩, hcalls⟩ := id hn
    have hserved := hb.callbacks_eq name
    rw [hroster] at hserved
    obtain ⟨serial, hf, hi⟩ := hserved
    change (b.host.register CoreEvent.onMessage.name).callbacks.filter _ = _ at hf
    obtain ⟨args, ha⟩ := Option.isSome_iff_exists.mp ((isSome_arguments?_iff b name m).mpr hcalls)
    refine .inl ⟨serial, ⟨name, command⟩, args, hn, hi, ha, ?_⟩
    calc (b.host.register CoreEvent.onMessage.name).callbacks.filterMap
          (fun c => (b.conduct.consider (Payload.ofMessage m) c ()).1)
        = ((b.host.register CoreEvent.onMessage.name).callbacks.filter
            (b.answersTo name)).filterMap
            (fun c => (b.conduct.consider (Payload.ofMessage m) c ()).1) := by
          rw [List.filterMap_filter]
          refine List.filterMap_congr fun c hc => ?_
          cases hno : b.answersTo name c with
          | true => rfl
          | false =>
              exact hb.consider_eq_none hc (ho c hc) fun name' hn' =>
                hb.isCalled_unique hn hn' ▸ hno
      _ = [⟨.command serial, Payload.ofMessage (m.withText args)⟩] := by
          rw [hf, List.filterMap_cons, consider_commandCallback hi, ha]
          rfl
  · refine .inr ⟨?_, fun name hn => hcalled ⟨name, hn⟩⟩
    rw [List.filterMap_eq_nil_iff]
    exact fun c hc =>
      hb.consider_eq_none hc (ho c hc) fun name hn => absurd ⟨name, hn⟩ hcalled

end Bot

end ChatBot
