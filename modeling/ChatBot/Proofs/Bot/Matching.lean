import ChatBot.Proofs.Bot.Calls

/-!
# Which messages a command takes

A command is put down with two functions that look at the text of a message: a prefilter, which says
whether the command is meant, and a preprocessor, which leaves the arguments.  Both go by one
regular expression, `^` and the opening and the name, letter by letter, and then `($|\s)`.

* `Pattern.Matches`: what a regular expression of this kind finds, and where.
* `Invocation.takes_iff_matches`: what is left when the match is taken out.
* `Bot.matching_exact`: the verdict of the prefilter and the work of the preprocessor, for every
  name that is accepted; no message is taken by two of them.
-/

namespace ChatBot

/-! ### Patterns -/

/-- The regular expressions that calls are recognised by. -/
inductive Pattern where
  /-- The beginning of the text, `^`. -/
  | start
  /-- The end of the text, `$`. -/
  | finish
  /-- These letters as they are, whatever they mean elsewhere. -/
  | letters (cs : List Char)
  /-- One whitespace character, `\s`. -/
  | space
  /-- One after the other. -/
  | seq (first second : Pattern)
  /-- One or the other. -/
  | either (first second : Pattern)

/-- A pattern finds a piece of a text, with so much before it and so much after it. -/
inductive Pattern.Matches : Pattern → List Char → List Char → List Char → Prop where
  | start (after : List Char) : Matches .start [] [] after
  | finish (before : List Char) : Matches .finish before [] []
  | letters (cs before after : List Char) : Matches (.letters cs) before cs after
  | space {c : Char} (hc : Text.isSpace c = true) (before after : List Char) :
      Matches .space before [c] after
  | seq {p q : Pattern} {before found more after : List Char}
      (hp : p.Matches before found (more ++ after)) (hq : q.Matches (before ++ found) more after) :
      Matches (.seq p q) before (found ++ more) after
  | left {p q : Pattern} {before found after : List Char} (hp : p.Matches before found after) :
      Matches (.either p q) before found after
  | right {p q : Pattern} {before found after : List Char} (hq : q.Matches before found after) :
      Matches (.either p q) before found after

namespace Invocation

/-- What a call of `name` begins with. -/
def preamble (opening name : String) : Pattern :=
  .seq .start (.seq (.letters opening.toList)
    (.seq (.letters name.toList) (.either .finish .space)))

/-- A text calls `name` with these arguments: it stops behind the name, or one whitespace character
stands between the two. -/
inductive Takes (opening name : String) : String → String → Prop where
  | bare : Takes opening name (opening ++ name) ""
  | spaced {c : Char} (hc : Text.isSpace c = true) (args : String) :
      Takes opening name (opening ++ name ++ String.singleton c ++ args) args

variable {opening name text args : String}

theorem Takes.calls (h : Takes opening name text args) : Calls opening name text := by
  cases h with
  | bare => exact ⟨[], by simp, by simp⟩
  | @spaced c hc args => exact ⟨c :: args.toList, by simp, by simpa using hc⟩

theorem arguments?_eq_some_iff : arguments? opening name text = some args ↔
    Takes opening name text args := by
  rw [arguments?, Option.map_eq_some_iff]
  constructor
  · rintro ⟨rest, hr, rfl⟩
    rw [rest?_eq_some_iff] at hr
    rcases hr with ⟨ht, rfl⟩ | ⟨c, hc, ht⟩
    · have htext : text = opening ++ name := String.toList_inj.mp (by simp [ht])
      exact htext ▸ .bare
    · have htext : text = opening ++ name ++ String.singleton c ++ String.ofList rest :=
        String.toList_inj.mp (by simp [ht])
      exact htext ▸ .spaced hc (String.ofList rest)
  · intro h
    refine ⟨args.toList, rest?_eq_some_iff.mpr ?_, String.ofList_toList⟩
    cases h with
    | bare => exact .inl (by simp)
    | @spaced c hc args => exact .inr ⟨c, hc, by simp⟩

/-- There is one place where a call can begin, and two ways for it to end. -/
theorem matches_preamble_iff {before found after : List Char} :
    (preamble opening name).Matches before found after ↔
      before = [] ∧ (found = opening.toList ++ name.toList ∧ after = [] ∨
        ∃ c, Text.isSpace c = true ∧ found = opening.toList ++ name.toList ++ [c]) := by
  constructor
  · intro h
    -- the pieces of the pattern, from the left to the right
    obtain _ | _ | _ | _ | ⟨hs, h⟩ := h
    cases hs
    obtain _ | _ | _ | _ | ⟨ho, h⟩ := h
    cases ho
    obtain _ | _ | _ | _ | ⟨hn, h⟩ := h
    cases hn
    cases h with
    | left hf =>
        cases hf
        exact ⟨rfl, .inl (by simp)⟩
    | right hf =>
        cases hf with
        | @space c hc => exact ⟨rfl, .inr ⟨c, hc, by simp⟩⟩
  · have hall {more : List Char} (h : (Pattern.either .finish .space).Matches
        (opening.toList ++ name.toList) more after) :
        (preamble opening name).Matches [] (opening.toList ++ name.toList ++ more) after := by
      have hn := Pattern.Matches.seq (.letters name.toList opening.toList (more ++ after)) h
      have ho := Pattern.Matches.seq (.letters opening.toList [] _) hn
      have hs := Pattern.Matches.seq (.start _) ho
      rwa [List.append_assoc]
    rintro ⟨rfl, ⟨rfl, rfl⟩ | ⟨c, hc, rfl⟩⟩
    · have h := hall (.left (.finish _))
      rwa [List.append_nil] at h
    · exact hall (.right (.space hc _ _))

/-- The arguments are what is left of the text without the piece that the pattern finds. -/
theorem takes_iff_matches : Takes opening name text args ↔
    ∃ before found after, (preamble opening name).Matches before found after ∧
      text.toList = before ++ found ++ after ∧ args.toList = before ++ after := by
  rw [← arguments?_eq_some_iff, arguments?, Option.map_eq_some_iff]
  simp only [rest?_eq_some_iff, matches_preamble_iff]
  constructor
  · rintro ⟨rest, ⟨ht, rfl⟩ | ⟨c, hc, ht⟩, rfl⟩
    · exact ⟨[], _, [], ⟨rfl, .inl ⟨rfl, rfl⟩⟩, by simp [ht], by simp⟩
    · exact ⟨[], _, rest, ⟨rfl, .inr ⟨c, hc, rfl⟩⟩, by simp [ht], by simp⟩
  · rintro ⟨before, found, after, ⟨rfl, ⟨rfl, rfl⟩ | ⟨c, hc, rfl⟩⟩, ht, ha⟩
    · exact ⟨[], .inl ⟨by simpa using ht, rfl⟩, String.toList_inj.mp (by simpa using ha.symm)⟩
    · exact ⟨after, .inr ⟨c, hc, by simpa using ht⟩, String.toList_inj.mp (by simpa using ha.symm)⟩

end Invocation

/-! ### What is put down for a command -/

/-- Who is added to an event listens to it. -/
theorem Host.mem_of_subscribe {κ : Type} {h h' : Host κ} {event : String} {c : Callback κ}
    (hs : h.subscribe event c = .ok h') : c ∈ h'.active event ++ h'.parked event := by
  rw [subscribe] at hs
  cases he : h.events.get? event with
  | none =>
      rw [he] at hs
      cases hs
      simp [parked]
  | some e =>
      rw [he] at hs
      cases hc : c.check event e.schema with
      | error error => simp [hc] at hs
      | ok done =>
          simp only [hc] at hs
          cases hs
          simp [active]

namespace Bot

variable {b later : Bot} {name description : String} {command : Command}

/-- The verdict of the prefilter of a callback on a message. -/
def passes (b : Bot) (c : Callback Handler) (m : Message) : Bool :=
  c.prefilter.all fun p => (b.conduct.passes p.ident (Payload.ofMessage m) ()).1

/-- What the preprocessor of a callback makes of a message. -/
def adapted (b : Bot) (c : Callback Handler) (m : Message) : Payload :=
  c.preprocessor.elim (Payload.ofMessage m) fun p =>
    (b.conduct.adapt p.ident (Payload.ofMessage m) ()).1

/-- The two together say what a listener is started with. -/
theorem consider_eq (b : Bot) (c : Callback Handler) (m : Message) :
    (b.conduct.consider (Payload.ofMessage m) c ()).1 =
      if b.passes c m then some ⟨c.target.ident, b.adapted c m⟩ else none := by
  obtain ⟨target, prefilter, preprocessor⟩ := c
  cases prefilter with
  | none => cases preprocessor <;> rfl
  | some p =>
      cases hp : (b.conduct.passes p.ident (Payload.ofMessage m) ()).1 <;>
        cases preprocessor <;> simp [Conduct.consider, passes, adapted, hp]

/-- What is put down when a name is accepted. -/
theorem addCommand_ok (h : (b.addCommand name description command).1 = .ok ()) :
    isCommandName name = true ∧
      (b.addCommand name description command).2.installation? b.minted = some ⟨name, command⟩ ∧
      (b.addCommand name description command).2.config = b.config ∧
      commandCallback b.minted ∈
        (b.addCommand name description command).2.callbacks .onMessage := by
  rw [addCommand_eq] at h ⊢
  split at h
  · cases h
  · rename_i hn
    rw [Bool.not_eq_false] at hn
    simp only [hn, Bool.true_eq_false, if_false, true_and]
    split at h
    · cases h
    · cases h
    · split at h
      · cases h
      · rename_i host hs
        refine ⟨?_, rfl, Host.mem_of_subscribe hs⟩
        exact (installation?_install b ⟨name, command⟩ b.minted).trans (if_pos rfl)

variable {serial : Nat}

theorem passes_iff (hi : b.installation? serial = some ⟨name, command⟩) (m : Message) :
    b.passes (commandCallback serial) m = true ↔
      ∃ text args, m.body = .text text ∧ Invocation.Takes b.config.opening name text args := by
  have hp : b.passes (commandCallback serial) m = (b.arguments? name m).isSome := by
    simp [passes, commandCallback, conduct, concerns, hi]
  rw [hp, arguments?, Option.isSome_iff_exists]
  cases m.body with
  | text text => simp [Invocation.arguments?_eq_some_iff]
  | error reason => simp

theorem adapted_eq (hi : b.installation? serial = some ⟨name, command⟩) {m : Message}
    {text args : String} (hm : m.body = .text text)
    (ht : Invocation.Takes b.config.opening name text args) :
    b.adapted (commandCallback serial) m = Payload.ofMessage { m with body := .text args } := by
  have ha : b.arguments? name m = some args := by
    rw [arguments?, hm]
    exact Invocation.arguments?_eq_some_iff.mpr ht
  simp [adapted, commandCallback, conduct, prepare, hi, ha, Message.withText]

/-- **Which messages a command takes.**  A bot accepts a name; from then on there is a callback for
it.  A message passes its prefilter just when it is a text that is the opening and the name, or has
one whitespace character and anything else behind them.  Then the command is started with the same
message that has the rest as its text.  So a text passes if the regular expression finds something
in it, and what is left is the text without that.  No message passes the prefilters of two names. -/
theorem matching_exact (ha : (b.addCommand name description command).1 = .ok ())
    (hg : (b.addCommand name description command).2.Grows later) :
    commandCallback b.minted ∈ (b.addCommand name description command).2.callbacks .onMessage ∧
    (∀ m : Message, later.passes (commandCallback b.minted) m = true ↔
      ∃ text args, m.body = .text text ∧ Invocation.Takes b.config.opening name text args) ∧
    (∀ (m : Message) (text args : String), m.body = .text text →
      Invocation.Takes b.config.opening name text args →
      later.adapted (commandCallback b.minted) m =
          Payload.ofMessage { m with body := .text args } ∧
        (later.conduct.consider (Payload.ofMessage m) (commandCallback b.minted) ()).1 =
          some ⟨.command b.minted, Payload.ofMessage { m with body := .text args }⟩) ∧
    (∀ text args : String, Invocation.Takes b.config.opening name text args ↔
      ∃ before found after,
        (Invocation.preamble b.config.opening name).Matches before found after ∧
        text.toList = before ++ found ++ after ∧ args.toList = before ++ after) ∧
    ∀ (b' : Bot) (name' description' : String) (command' : Command),
      (b'.addCommand name' description' command').1 = .ok () →
      (b'.addCommand name' description' command').2.Grows later → name' ≠ name →
      ∀ m : Message, later.passes (commandCallback b.minted) m = true →
        later.passes (commandCallback b'.minted) m = false := by
  obtain ⟨hn, hi, hc, hmem⟩ := addCommand_ok ha
  have hlater := hg.installed _ _ hi
  have hconfig : later.config = b.config := hg.config.trans hc
  rw [← hconfig]
  have hpasses := passes_iff hlater
  refine ⟨hmem, hpasses, ?_, fun text args => Invocation.takes_iff_matches, ?_⟩
  · intro m text args hm ht
    have hadapted := adapted_eq hlater hm ht
    refine ⟨hadapted, ?_⟩
    rw [consider_eq, (hpasses m).mpr ⟨text, args, hm, ht⟩, if_pos rfl, hadapted]
    rfl
  · intro b' name' description' command' ha' hg' hne m hm
    obtain ⟨hn', hi', -, -⟩ := addCommand_ok ha'
    obtain ⟨text, args, htext, ht⟩ := (hpasses m).mp hm
    rw [← Bool.not_eq_true]
    intro hm'
    obtain ⟨text', args', htext', ht'⟩ := (passes_iff (hg'.installed _ _ hi') m).mp hm'
    rw [htext, Body.text.injEq] at htext'
    exact hne ((htext' ▸ ht').calls.unique ht.calls hn' hn)

namespace Sample

/-- A bot with a name that would be a pattern, and another one that goes on from there. -/
def pointed : Bot :=
  ((bare.addCommand "!.*" "" .echo).2.addCommand "!.*+" "" .help).2

end Sample

theorem matching_exact_sample :
    (Sample.bare.addCommand "!.*" "" .echo).1 = .ok () ∧
      (Sample.bare.addCommand "!.*" "" .echo).2.Grows Sample.pointed ∧
      Sample.pointed.passes (commandCallback Sample.bare.minted)
        { body := .text "!!.*\t !!.* hi", sender := "alice" } = true ∧
      Sample.pointed.adapted (commandCallback Sample.bare.minted)
          { body := .text "!!.*\t !!.* hi", sender := "alice" } =
        Payload.ofMessage { body := .text " !!.* hi", sender := "alice" } ∧
      Sample.pointed.passes (commandCallback (Sample.bare.addCommand "!.*" "" .echo).2.minted)
        { body := .text "!!.*\t !!.* hi", sender := "alice" } = false := by
  have hb : Bot.ofConfig {} = .ok Sample.bare := rfl
  have hadd : (Sample.bare.addCommand "!.*" "" .echo).1 = .ok () := rfl
  have hmore : ((Sample.bare.addCommand "!.*" "" .echo).2.addCommand "!.*+" "" .help).1 =
      .ok () := rfl
  have hg : (Sample.bare.addCommand "!.*" "" .echo).2.Grows Sample.pointed :=
    (((consistent_ofConfig hb).1.carried_add "!.*" "" .echo (.ok ())).consistent.carried_add
      "!.*+" "" .help (.ok ())).grows
  have htab : Text.isSpace '\t' = true := by decide
  have htakes : Invocation.Takes "!" "!.*" ("!" ++ "!.*" ++ String.singleton '\t' ++ " !!.* hi")
      " !!.* hi" := .spaced htab _
  obtain ⟨-, hpasses, hadapted, -, hunique⟩ := matching_exact hadd hg
  have hm := (hpasses { body := .text "!!.*\t !!.* hi", sender := "alice" }).mpr
    ⟨_, _, rfl, htakes⟩
  exact ⟨hadd, hg, hm, (hadapted _ _ _ rfl htakes).1,
    hunique _ _ _ _ hmore (.refl _) (by decide) _ hm⟩

end Bot

end ChatBot
