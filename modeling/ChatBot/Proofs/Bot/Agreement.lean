import ChatBot.Proofs.Bot.Calls
import ChatBot.Proofs.Node.Parsing
import ChatBot.Proofs.Token.Canonical

/-!
# Chat and expressions on what a command is

A command is called by a message that starts the way commands do, and by an expression that spells
such a message.  The expression goes another way: its whitespace becomes spaces, and it is trimmed
before one looks how it starts.  So the two agree for those openings that this does not touch.

* `Language.evaluate_quote`: what comes of a text that is spelled letter by letter.
* `Invocation.arguments?_trim`: a call without the whitespace around it is the same call.
* `Bot.expressions_agree`: for which openings an expression calls what a message calls.
* `Bot.spelled_call_unheard`: an opening for which it calls nothing.
-/

namespace ChatBot

/-! ### What is spelled -/

/-- A text behind escapes is evaluated as a whole. -/
theorem Language.evaluate_quote (l : Language) (hm : l.marks.Consistent) {text : String}
    (ht : Text.isBlank text = false) :
    l.evaluate (String.ofList (l.marks.quote text.toList)) =
      Dialogue.ofCommand l.opening (Text.spaced text) := by
  have hlex := Token.lex_quote hm text
  rw [ht, if_neg Bool.false_ne_true] at hlex
  have hparse : Node.parse l.maxDepth [.identifier (Text.spaced text)] =
      .ok [.literal (Text.spaced text)] := by
    rw [Node.parse, Node.parseAt_of_closes (Nat.zero_le _) (.other id .nil),
      Node.parseItems_identifier (by simp), Node.parseItems_nil]
    rfl
  have hp : l.parse (String.ofList (l.marks.quote text.toList)) =
      .ok [.literal (Text.spaced text)] := by
    rw [parse, hlex]
    exact congrArg (Except.mapError EvalError.parse) hparse
  rw [evaluate, hp]
  change Dialogue.ofCommand l.opening ("" ++ Text.spaced text) = _
  rw [String.empty_append]

namespace Invocation

variable {opening name args text : String}

/-- An opening that stays as it is when a text is trimmed and its whitespace becomes spaces. -/
structure IsPlain (opening : String) : Prop where
  head : ∀ c ∈ opening.toList.head?, Text.isSpace c = false
  spaced : Text.IsSpaced opening.toList

theorem isPlain_iff : IsPlain opening ↔
    opening.toList.head?.all (fun c => !Text.isSpace c) = true ∧ Text.IsSpaced opening.toList := by
  rw [Option.all_eq_true]
  constructor
  · intro h
    exact ⟨fun c hc => (Bool.not_eq_true' _).mpr (h.head c hc), h.spaced⟩
  · rintro ⟨hhead, hspaced⟩
    exact ⟨fun c hc => (Bool.not_eq_true' _).mp (hhead c hc), hspaced⟩

instance (opening : String) : Decidable (IsPlain opening) := decidable_of_iff' _ isPlain_iff

/-- A text that calls `name` with the arguments `args`. -/
def IsCall (opening name args text : String) : Prop :=
  text = opening ++ name ∧ args = "" ∨ text = opening ++ name ++ " " ++ args

theorem isPlain_of_startsWith (h : startsWith opening (Text.trim (Text.spaced text)) = true) :
    IsPlain opening := by
  obtain ⟨rest, hr⟩ := List.isPrefixOf_iff_prefix.mp h
  refine ⟨fun c hc => ?_, fun c hc => ?_⟩
  · refine (Text.isTrimmed_trim (Text.spaced text)).head c ?_
    rw [← hr, List.head?_append, Option.mem_def.mp hc]
    rfl
  · exact Text.isSpaced_spaced text c (Text.mem_of_mem_trim (hr ▸ List.mem_append_left rest hc))

theorem arguments?_of_isCall (h : IsCall opening name args text) :
    arguments? opening name text = some args := by
  rcases h with ⟨rfl, rfl⟩ | rfl
  · have hr := rest?_append (opening.toList ++ name.toList) []
    rw [List.append_nil] at hr
    rw [arguments?, String.toList_append, hr]
    rfl
  · rw [arguments?]
    simp only [String.toList_append]
    rw [List.append_assoc, rest?_append]
    change Option.map _ (if Text.isSpace ' ' then _ else _) = _
    rw [if_pos (by decide)]
    exact congrArg some String.ofList_toList

theorem IsCall.toList_eq (h : IsCall opening name args text) :
    ∃ tail, text.toList = opening.toList ++ name.toList ++ tail ∧
      (tail = [] ∧ args = "" ∨ tail = ' ' :: args.toList) := by
  rcases h with ⟨rfl, rfl⟩ | rfl
  · exact ⟨[], by rw [String.toList_append, List.append_nil], .inl ⟨rfl, rfl⟩⟩
  · refine ⟨' ' :: args.toList, ?_, .inr rfl⟩
    rw [String.toList_append, String.toList_append, String.toList_append, List.append_assoc]
    rfl

/-- A call is trimmed behind its name only. -/
theorem toList_trim_of_isPlain (ho : IsPlain opening) (hn : isCommandName name = true)
    {tail : List Char} (ht : text.toList = opening.toList ++ name.toList ++ tail) :
    (Text.trim text).toList = opening.toList ++ name.toList ++ tail.rdropWhile Text.isSpace := by
  have hname := toList_ne_nil_of_isCommandName hn
  rw [Text.trim, String.toList_ofList, ht]
  refine Text.trimChars_append (by simp [hname]) (fun c hc => ?_) (fun c hc => ?_) tail
  · rw [List.head?_append, Option.mem_def, Option.or_eq_some_iff] at hc
    exact hc.elim (ho.head c) fun hc =>
      not_isSpace_of_isCommandName hn (List.mem_of_mem_head? hc.2)
  · rw [List.getLast?_append_of_ne_nil _ hname] at hc
    exact not_isSpace_of_isCommandName hn (List.mem_of_mem_getLast? hc)

/-- **A call without the whitespace around it is the same call**, with the arguments that are left. -/
theorem arguments?_trim (ho : IsPlain opening) (hn : isCommandName name = true)
    (h : IsCall opening name args text) :
    arguments? opening name (Text.trim text) =
      some (String.ofList (args.toList.rdropWhile Text.isSpace)) := by
  obtain ⟨tail, ht, htail⟩ := h.toList_eq
  rw [arguments?, toList_trim_of_isPlain ho hn ht, rest?_append]
  rcases htail with ⟨rfl, rfl⟩ | rfl
  · rfl
  · rw [Text.rdropWhile_cons (by decide)]
    by_cases hargs : args.toList.rdropWhile Text.isSpace = []
    · rw [if_pos hargs, hargs]
      rfl
    · rw [if_neg hargs]
      dsimp only
      rw [if_pos (by decide)]
      rfl

theorem not_isBlank_of_isCall (hn : isCommandName name = true)
    (h : IsCall opening name args text) : Text.isBlank text = false := by
  obtain ⟨tail, ht, -⟩ := h.toList_eq
  obtain ⟨c, cs, hc⟩ := List.exists_cons_of_ne_nil (toList_ne_nil_of_isCommandName hn)
  rw [Text.isBlank, List.all_eq_false]
  refine ⟨c, by simp [ht, hc], ?_⟩
  rw [not_isSpace_of_isCommandName hn (hc ▸ List.mem_cons_self)]
  exact Bool.false_ne_true

theorem isSpaced_of_isCall (ho : IsPlain opening) (hn : isCommandName name = true)
    (hargs : Text.IsSpaced args.toList) (h : IsCall opening name args text) :
    Text.IsSpaced text.toList := by
  obtain ⟨tail, ht, htail⟩ := h.toList_eq
  intro c hc hs
  rw [ht, List.mem_append, List.mem_append] at hc
  rcases hc with (hc | hc) | hc
  · exact ho.spaced c hc hs
  · rw [not_isSpace_of_isCommandName hn hc] at hs
    cases hs
  · rcases htail with ⟨rfl, -⟩ | rfl
    · cases hc
    · exact (List.mem_cons.mp hc).elim id fun hc => hargs c hc hs

/-- What comes of a call that is spelled letter by letter. -/
theorem evaluate_call {l : Language} (hm : l.marks.Consistent) (hn : isCommandName name = true)
    (hargs : Text.IsSpaced args.toList) (h : IsCall l.opening name args text) :
    (IsPlain l.opening →
      l.evaluate (String.ofList (l.marks.quote text.toList)) = .ask (Text.trim text) .done) ∧
    (¬ IsPlain l.opening →
      l.evaluate (String.ofList (l.marks.quote text.toList)) = .done (Text.spaced text)) := by
  rw [l.evaluate_quote hm (not_isBlank_of_isCall hn h), Dialogue.ofCommand]
  constructor
  · intro ho
    obtain ⟨tail, ht, -⟩ := h.toList_eq
    have hstarts : startsWith l.opening (Text.trim text) = true := by
      rw [startsWith, toList_trim_of_isPlain ho hn ht, List.append_assoc]
      exact List.isPrefixOf_iff_prefix.mpr (List.prefix_append _ _)
    rw [Text.spaced_eq (isSpaced_of_isCall ho hn hargs h), if_pos hstarts]
  · intro ho
    rw [if_neg (mt isPlain_of_startsWith ho)]

end Invocation

/-! ### What is started -/

namespace Bot

variable {b : Bot} {name args text : String} {command : Command}

/-- Of the commands that listen for messages, `m` starts the one with this serial number and no
other, and gives it these arguments. -/
def Starts (b : Bot) (m : Message) (serial : Nat) (args : String) : Prop :=
  commandCallback serial ∈ b.callbacks .onMessage ∧
    ∀ c ∈ b.callbacks .onMessage, c.isCommand = true →
      (b.conduct.consider (Payload.ofMessage m) c ()).1 =
        if c = commandCallback serial then
          some ⟨.command serial, Payload.ofMessage (m.withText args)⟩
        else none

theorem Consistent.starts (hb : b.Consistent) {serial : Nat} {m : Message}
    (hf : (b.callbacks .onMessage).filter (b.answersTo name) = [commandCallback serial])
    (hi : b.installation? serial = some ⟨name, command⟩)
    (ha : b.arguments? name m = some args) : b.Starts m serial args := by
  have hmem : commandCallback serial ∈ b.callbacks .onMessage :=
    (List.mem_filter.mp (hf ▸ List.mem_singleton_self _)).1
  have hcalled : b.IsCalled name m :=
    ⟨⟨command, hb.served hmem hi⟩, (isSome_arguments?_iff b name m).mp (ha ▸ rfl)⟩
  refine ⟨hmem, fun c hc hcommand => ?_⟩
  split
  · rename_i heq
    rw [heq, consider_commandCallback hi, ha]
    rfl
  · rename_i hne
    refine hb.consider_eq_none hc hcommand fun name' hcalled' => ?_
    rw [← hb.isCalled_unique hcalled hcalled', ← Bool.not_eq_true]
    intro hanswers
    have hin : c ∈ [commandCallback serial] := hf ▸ List.mem_filter.mpr ⟨hc, hanswers⟩
    exact hne (List.mem_singleton.mp hin)

theorem consistent_marks_of_validate {config : Config} (h : config.validate = .ok ()) :
    config.eval.marks.Consistent := by
  rw [Config.validate] at h
  split at h
  · cases h
  · split at h
    · cases h
    · split at h
      · cases h
      · rename_i hm
        rw [Bool.not_eq_true, Bool.not_eq_false'] at hm
        exact Marks.isConsistent_iff.mp hm

/-- **Chat and expressions agree on what a command is, for plain openings.**  A text calls a command
that is served by a bot; it has no whitespace behind the name but spaces.  As a message it starts
that command and no other.  An expression that spells it publishes one request, which starts the
same command and no other, with the same arguments up to the whitespace around them.  Where the
opening is not plain, the expression publishes nothing, and its result is the text. -/
theorem expressions_agree {config : Config} {b₀ : Bot} (hb : Bot.ofConfig config = .ok b₀)
    {es : List BotEdit} (he : ∀ e ∈ es, e.IsUnrelated)
    (hserved : ((b₀.afterEdits es).roster name).bind (·.command) = some command)
    (hcall : Invocation.IsCall config.opening name args text)
    (hargs : Text.IsSpaced args.toList) :
    let b := b₀.afterEdits es
    let spelled := String.ofList (config.eval.marks.quote text.toList)
    ∃ serial, b.installation? serial = some ⟨name, command⟩ ∧
      (∀ m : Message, m.body = .text text → b.Starts m serial args) ∧
      (Invocation.IsPlain config.opening →
        b.config.language.evaluate spelled = .ask (Text.trim text) .done ∧
        ∃ args', Text.trim args' = Text.trim args ∧
          ∀ session : Session, b.Starts (session.request (Text.trim text)) serial args') ∧
      (¬ Invocation.IsPlain config.opening →
        b.config.language.evaluate spelled = .done (Text.spaced text)) := by
  intro b spelled
  have hnew := (consistent_ofConfig hb).1
  have hc : b.Consistent := (carried_afterEdits hnew he).1
  have hconfig : b.config = config := by
    obtain ⟨host, rfl, -⟩ := ofConfig_ok hb
    exact (grows_afterEdits hnew he).config
  have hm := consistent_marks_of_validate (validate_of_ofConfig hb)
  have hlisted := hc.callbacks_eq name
  rw [hserved] at hlisted
  obtain ⟨serial, hf, hi⟩ := hlisted
  have hn : isCommandName name = true := by
    cases hg : b.registry.get? name with
    | none => simp [b, roster, hg] at hserved
    | some g => exact (hc.titled name g hg).2
  obtain ⟨hplain, hodd⟩ :=
    Invocation.evaluate_call (l := config.language) hm hn hargs hcall
  have htrimmed (ho : Invocation.IsPlain config.opening) (session : Session) :
      b.Starts (session.request (Text.trim text)) serial
        (String.ofList (args.toList.rdropWhile Text.isSpace)) := by
    refine hc.starts hf hi ?_
    rw [arguments?, hconfig]
    exact Invocation.arguments?_trim ho hn hcall
  have htrim : Text.trim (String.ofList (args.toList.rdropWhile Text.isSpace)) = Text.trim args := by
    rw [Text.trim, String.toList_ofList, Text.trimChars_rdropWhile]
    rfl
  rw [hconfig]
  refine ⟨serial, hi, fun m ht => hc.starts hf hi ?_,
    fun ho => ⟨hplain ho, _, htrim, htrimmed ho⟩, hodd⟩
  rw [arguments?, ht, hconfig]
  exact Invocation.arguments?_of_isCall hcall

namespace Sample

/-- A bot that says things again. -/
def echoing (opening : String) : Bot :=
  ((Bot.ofConfig { opening := opening }).toOption.getD {}).afterEdits [.add "echo" "" .echo]

/-- A message as people write it. -/
def chat (text : String) : Message where
  body := .text text
  sender := "alice"
  address := .external "room"

end Sample

theorem expressions_agree_sample :
    Bot.ofConfig {} = .ok Sample.bare ∧ Invocation.IsCall "!" "echo" "hi" "!echo hi" ∧
      Text.IsSpaced "hi".toList ∧ Invocation.IsPlain "!" ∧
      (Sample.echoing "!").config.language.evaluate "\\!\\e\\c\\h\\o\\ \\h\\i" =
        .ask "!echo hi" .done := by
  have hb : Bot.ofConfig {} = .ok Sample.bare := rfl
  have hcall : Invocation.IsCall "!" "echo" "hi" "!echo hi" := .inr (by decide)
  have hargs : Text.IsSpaced "hi".toList := by decide +kernel
  have hplain : Invocation.IsPlain "!" := by decide +kernel
  have hunrelated : ∀ e ∈ [BotEdit.add "echo" "" .echo], e.IsUnrelated := by
    simp [BotEdit.IsUnrelated]
  have hserved : ((Sample.bare.afterEdits [.add "echo" "" .echo]).roster "echo").bind (·.command) =
      some .echo := rfl
  obtain ⟨serial, -, -, hagree, -⟩ := expressions_agree hb hunrelated hserved hcall hargs
  have htrim : Text.trim "!echo hi" = "!echo hi" := by decide +kernel
  have hspelled : String.ofList (({} : Marks).quote "!echo hi".toList) =
      "\\!\\e\\c\\h\\o\\ \\h\\i" := by decide +kernel
  have hasks := (hagree hplain).1
  rw [htrim] at hasks
  rw [← hspelled]
  exact ⟨hb, hcall, hargs, hplain, hasks⟩

/-- An opening that begins with a space.  The message is heard, and the expression is not. -/
theorem spelled_call_unheard :
    Config.validate { opening := " !" } = .ok () ∧
      ((Sample.echoing " !").launches CoreEvent.onMessage.name
        (Payload.ofMessage (Sample.chat " !echo hi"))).toOption.map List.length = some 1 ∧
      (Sample.echoing " !").config.language.evaluate "\\ \\!\\e\\c\\h\\o\\ \\h\\i" =
        .done " !echo hi" := by
  have hspelled : String.ofList (({} : Marks).quote " !echo hi".toList) =
      "\\ \\!\\e\\c\\h\\o\\ \\h\\i" := by decide +kernel
  have hspaced : Text.spaced " !echo hi" = " !echo hi" := by decide +kernel
  have hodd : ¬ Invocation.IsPlain " !" := by decide +kernel
  have hcall : Invocation.IsCall " !" "echo" "hi" " !echo hi" := .inr (by decide)
  have hdone := (Invocation.evaluate_call (l := ⟨{}, Node.defaultMaxDepth, " !"⟩) (by decide)
    (by decide +kernel) (by decide +kernel) hcall).2 hodd
  rw [hspelled, hspaced] at hdone
  exact ⟨by decide +kernel, by decide +kernel, hdone⟩

end Bot

end ChatBot
