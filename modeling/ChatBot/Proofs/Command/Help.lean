import ChatBot.Command.Help
import ChatBot.Config
import ChatBot.Proofs.Bot.Calls
import ChatBot.Proofs.Command.Registry
import ChatBot.Proofs.Text.Whitespace

/-!
# Asking for an entry of the list

The list of commands shows each of them the way it is called, and one may ask for a command in the
same way.  What is asked for is trimmed first, and then loses every copy of the opening that it
begins with.  So the name of a command comes out of its entry if the opening does not begin with
whitespace and the name does not begin with the opening, or if the opening is nothing but
whitespace.

* `Help.ReadsBack`: the name comes out of the entry.
* `Help.Misreads`: another name comes out of it, and which.
* `Help.entries_looked_up`: what one is told about an entry.
* `Help.entry_misread`: entries for which one is told something else, or nothing.
-/

namespace ChatBot.Help

variable {κ : Type} {opening name other : String}

/-! ### Copies of the opening -/

section StripAll

variable {start cs rest : List Char}

theorem stripAll_of_not_starts (h : ¬ start <+: cs) : stripAll start cs = cs := by
  rw [stripAll, dif_neg]
  exact fun hp => h (List.isPrefixOf_iff_prefix.mp hp.2)

theorem stripAll_append (hs : start ≠ []) : stripAll start (start ++ cs) = stripAll start cs := by
  rw [stripAll, dif_pos ⟨hs, List.isPrefixOf_iff_prefix.mpr (List.prefix_append _ _)⟩,
    List.drop_left]

theorem stripAll_copies (hs : start ≠ []) (n : Nat) (h : ¬ start <+: rest) :
    stripAll start ((List.replicate n start).flatten ++ rest) = rest := by
  induction n with
  | zero => exact stripAll_of_not_starts h
  | succ n ih =>
      rw [List.replicate_succ, List.flatten_cons, List.append_assoc, stripAll_append hs]
      exact ih

/-- Copies can be taken off until there is none left. -/
theorem exists_copies (hs : start ≠ []) (cs : List Char) :
    ∃ n rest, cs = (List.replicate n start).flatten ++ rest ∧ ¬ start <+: rest := by
  by_cases h : start <+: cs
  · obtain ⟨more, hm⟩ := h
    have hlt : more.length < cs.length := by
      have := List.length_pos_iff.mpr hs
      rw [← hm, List.length_append]
      omega
    obtain ⟨n, rest, rfl, hr⟩ := exists_copies hs more
    refine ⟨n + 1, rest, ?_, hr⟩
    rw [← hm, List.replicate_succ, List.flatten_cons, List.append_assoc]
  · exact ⟨0, cs, rfl, h⟩
termination_by cs.length

end StripAll

/-! ### Entries -/

/-- The name comes out of the entry: nothing of the opening is trimmed away, and the name does not
begin with another copy of it, or all of the opening is trimmed away. -/
def ReadsBack (opening name : String) : Prop :=
  Text.isBlank opening = true ∨
    (∀ c ∈ opening.toList.head?, Text.isSpace c = false) ∧ ¬ opening.toList <+: name.toList

/-- Another name comes out of the entry of `name`. -/
inductive Misreads (opening name : String) : String → Prop where
  /-- The opening loses whitespace in front, and what is left of it stays where it is. -/
  | shortened (hc : ∃ c ∈ opening.toList.head?, Text.isSpace c = true)
      (hb : Text.isBlank opening = false) :
      Misreads opening name (String.ofList (opening.toList.dropWhile Text.isSpace) ++ name)
  /-- The name begins with copies of the opening, and loses them. -/
  | repeated {n : Nat} {rest : String} (hc : ∀ c ∈ opening.toList.head?, Text.isSpace c = false)
      (hn : name.toList = (List.replicate (n + 1) opening.toList).flatten ++ rest.toList)
      (hr : ¬ opening.toList <+: rest.toList) : Misreads opening name rest

theorem readsBack_or_misreads (ho : opening ≠ "") (name : String) :
    ReadsBack opening name ∨ ∃ other, Misreads opening name other := by
  by_cases hb : Text.isBlank opening = true
  · exact .inl (.inl hb)
  by_cases hc : ∀ c ∈ opening.toList.head?, Text.isSpace c = false
  · obtain ⟨n, rest, hn, hr⟩ := exists_copies (mt String.toList_eq_nil_iff.mp ho) name.toList
    cases n with
    | zero => exact .inl (.inr ⟨hc, by rwa [hn]⟩)
    | succ n => exact .inr ⟨String.ofList rest, .repeated hc (by simpa using hn) (by simpa using hr)⟩
  · simp only [not_forall, Bool.not_eq_false] at hc
    obtain ⟨c, hm, hs⟩ := hc
    exact .inr ⟨_, .shortened ⟨c, hm, hs⟩ (Bool.eq_false_iff.mpr hb)⟩

theorem Misreads.ne (ho : opening ≠ "") (h : Misreads opening name other) : other ≠ name := by
  intro he
  have hlen : other.toList.length = name.toList.length := by rw [he]
  cases h with
  | shortened hc hb =>
      obtain ⟨c, hm, hs⟩ := List.all_eq_false.mp hb
      have hd : opening.toList.dropWhile Text.isSpace ≠ [] := by
        rw [Ne, List.dropWhile_eq_nil_iff]
        exact fun hall => hs (hall c hm)
      have := List.length_pos_iff.mpr hd
      rw [String.toList_append, String.toList_ofList, List.length_append] at hlen
      omega
  | @repeated n rest hc hn hr =>
      have := List.length_pos_iff.mpr (mt String.toList_eq_nil_iff.mp ho)
      rw [hn, List.replicate_succ, List.flatten_cons, List.length_append, List.length_append]
        at hlen
      omega

/-- An entry is trimmed in front only. -/
theorem toList_trim_entry (opening : String) (hn : isCommandName name = true) :
    (Text.trim (opening ++ name)).toList =
      opening.toList.dropWhile Text.isSpace ++ name.toList := by
  have hname : ∀ c ∈ name.toList, ¬ Text.isSpace c = true := fun c hc =>
    Bool.eq_false_iff.mp (Invocation.not_isSpace_of_isCommandName hn hc)
  have hd : name.toList.dropWhile Text.isSpace = name.toList := by
    cases hcs : name.toList with
    | nil => rfl
    | cons c cs => exact List.dropWhile_cons_of_neg (hname c (by rw [hcs]; exact List.mem_cons_self))
  have hfront : (opening.toList ++ name.toList).dropWhile Text.isSpace =
      opening.toList.dropWhile Text.isSpace ++ name.toList := by
    rw [List.dropWhile_append, hd]
    split
    · rename_i h
      rw [List.isEmpty_iff.mp h, List.nil_append]
    · rfl
  rw [Text.trim, String.toList_ofList, Text.trimChars_eq, String.toList_append, hfront,
    List.rdropWhile_eq_self_iff]
  intro hne
  rw [List.getLast_append_of_ne_nil hne (Invocation.toList_ne_nil_of_isCommandName hn)]
  exact hname _ (List.getLast_mem _)

/-- What begins with whitespace does not begin an entry that is trimmed. -/
theorem not_starts_trim {start : List Char} (hs : ∃ c ∈ start.head?, Text.isSpace c = true)
    (text : String) : ¬ start <+: (Text.trim text).toList := by
  obtain ⟨c, hc, hs⟩ := hs
  rintro ⟨rest, hr⟩
  have hh := (Text.isTrimmed_trim text).head c (by rw [← hr, List.head?_append, hc]; rfl)
  rw [hs] at hh
  cases hh

theorem dropWhile_eq_self (hc : ∀ c ∈ opening.toList.head?, Text.isSpace c = false) :
    opening.toList.dropWhile Text.isSpace = opening.toList := by
  cases hcs : opening.toList with
  | nil => rfl
  | cons c cs => exact List.dropWhile_cons_of_neg (Bool.eq_false_iff.mp (hc c (by rw [hcs]; rfl)))

theorem stripAll_of_readsBack (ho : opening ≠ "") (hn : isCommandName name = true)
    (h : ReadsBack opening name) :
    stripAll opening.toList (Text.trim (opening ++ name)).toList = name.toList := by
  have hne := mt String.toList_eq_nil_iff.mp ho
  rcases h with hb | ⟨hc, hp⟩
  · obtain ⟨c, cs, hcs⟩ := List.exists_cons_of_ne_nil hne
    have hs : ∃ c ∈ opening.toList.head?, Text.isSpace c = true :=
      ⟨c, by rw [hcs]; rfl, List.all_eq_true.mp hb c (by rw [hcs]; exact List.mem_cons_self)⟩
    rw [stripAll_of_not_starts (not_starts_trim hs _), toList_trim_entry opening hn,
      List.dropWhile_eq_nil_iff.mpr (List.all_eq_true.mp hb), List.nil_append]
  · rw [toList_trim_entry opening hn, dropWhile_eq_self hc, stripAll_append hne,
      stripAll_of_not_starts hp]

theorem stripAll_of_misreads (ho : opening ≠ "") (hn : isCommandName name = true)
    (h : Misreads opening name other) :
    stripAll opening.toList (Text.trim (opening ++ name)).toList = other.toList := by
  cases h with
  | shortened hc hb =>
      rw [stripAll_of_not_starts (not_starts_trim hc _), toList_trim_entry opening hn,
        String.toList_append, String.toList_ofList]
  | @repeated n rest hc hname hr =>
      have hne := mt String.toList_eq_nil_iff.mp ho
      rw [toList_trim_entry opening hn, dropWhile_eq_self hc, hname, stripAll_append hne,
        stripAll_copies hne (n + 1) hr]

/-! ### Replies -/

theorem reply_of_isBlank (r : Registry κ) (opening : String) {text : String}
    (h : Text.isBlank text = true) : reply r opening text = .ok (listing opening r.list) := by
  have ht : Text.trim text = "" := by
    rw [Text.trim, String.ofList_eq_empty_iff, Text.trimChars_eq,
      List.dropWhile_eq_nil_iff.mpr (List.all_eq_true.mp h), List.rdropWhile_nil]
  rw [reply, ht]
  rfl

/-- Who asks for an entry is answered for the name that comes out of it. -/
theorem reply_entry (r : Registry κ) (hn : isCommandName name = true)
    (hs : stripAll opening.toList (Text.trim (opening ++ name)).toList = other.toList) :
    reply r opening (opening ++ name) =
      (r.info? other).elim (.error (.failed ("No such command \"" ++ other ++ "\"")))
        fun info => .ok (describe opening info) := by
  have hne : (Text.trim (opening ++ name)).isEmpty = false := by
    rw [Bool.eq_false_iff, Ne, String.isEmpty_iff, ← String.toList_eq_nil_iff,
      toList_trim_entry opening hn, List.append_eq_nil_iff]
    exact fun h => Invocation.toList_ne_nil_of_isCommandName hn h.2
  simp only [reply, hne, Bool.false_eq_true, if_false, hs, String.ofList_toList]
  cases r.info? other <;> rfl

theorem toList_describe (opening : String) (c : CommandInfo) :
    (describe opening c).toList = opening.toList ++ c.name.toList ++
      if c.description = "" then [] else ':' :: ' ' :: c.description.toList := by
  rw [describe, String.toList_append, String.toList_append]
  by_cases hd : c.description = ""
  · simp [hd]
  · simp [hd]

/-- A description tells which command it is about: it is one word longer than the opening, and a
colon belongs to the word just when more follows. -/
theorem name_eq_of_describe_eq {c d : CommandInfo} (hc : isCommandName c.name = true)
    (hd : isCommandName d.name = true) (h : describe opening c = describe opening d) :
    c.name = d.name := by
  -- a colon with a space behind it is no part of a name
  have hcolon {name : String} (hn : isCommandName name = true) (cs more : List Char) :
      name.toList ≠ cs ++ ':' :: ' ' :: more := fun he => by
    have hs := Invocation.not_isSpace_of_isCommandName hn (c := ' ') (by simp [he])
    exact absurd hs (by decide)
  have hw {name : String} (hn : isCommandName name = true) :
      ∀ ch ∈ name.toList ++ [':'], Text.isSpace ch = false := fun ch hm => by
    rcases List.mem_append.mp hm with hm | hm
    · exact Invocation.not_isSpace_of_isCommandName hn hm
    · rw [List.mem_singleton.mp hm]
      decide
  have h := congrArg String.toList h
  rw [toList_describe, toList_describe, List.append_assoc, List.append_assoc,
    List.append_cancel_left_eq] at h
  refine String.toList_inj.mp ?_
  split at h <;> split at h
  · simpa using h
  · exact absurd (by simpa using h) (hcolon hc _ _)
  · exact absurd (by simpa using h.symm) (hcolon hd _ _)
  · rw [List.append_cons, List.append_cons d.name.toList] at h
    have hr (more : List Char) : ∀ ch ∈ (' ' :: more).head?, Text.isSpace ch = true := by
      rintro ch ⟨⟩
      decide
    have heq : c.name.toList ++ [':'] = d.name.toList ++ [':'] := by
      rcases Nat.le_total (c.name.toList ++ [':']).length (d.name.toList ++ [':']).length
        with hl | hl
      · exact Invocation.eq_of_append_eq h (hr _) (hw hd) hl
      · exact (Invocation.eq_of_append_eq h.symm (hr _) (hw hc) hl).symm
    exact List.append_cancel_right heq

theorem ne_empty_of_validate {config : Config} (h : config.validate = .ok ()) :
    config.opening ≠ "" := by
  rintro he
  rw [Config.validate, he] at h
  split at h <;> cases h

/-- **Which entries of the list can be asked for.**  Whatever the history of the registry and
whatever opening is valid, blank arguments are answered with the list, which shows each command as
the opening and its name.  Who asks for such an entry is told about the command just when the name
comes out of the entry.  Otherwise another name comes out of it, and one is told about the command
that has this name, or that there is none. -/
theorem entries_looked_up {config : Config} (hv : config.validate = .ok ())
    (es : List (RegistryEdit κ)) {c : CommandInfo}
    (hc : c ∈ (Registry.afterEdits ({} : Registry κ) es).list) :
    let r := Registry.afterEdits ({} : Registry κ) es
    let entry := config.opening ++ c.name
    (∀ text, Text.isBlank text = true → reply r config.opening text =
      .ok ("Commands: " ++ String.intercalate ", "
        (r.list.map fun info => config.opening ++ info.name))) ∧
    (reply r config.opening entry = .ok (describe config.opening c) ↔
      ReadsBack config.opening c.name) ∧
    (¬ ReadsBack config.opening c.name →
      ∃ other, Misreads config.opening c.name other ∧ other ≠ c.name ∧
        ((∃ d ∈ r.list, d.name = other ∧
          reply r config.opening entry = .ok (describe config.opening d)) ∨
        ((∀ d ∈ r.list, d.name ≠ other) ∧ reply r config.opening entry =
          .error (.failed ("No such command \"" ++ other ++ "\""))))) := by
  intro r entry
  have hr : r.IsKept := Registry.IsKept.empty.afterEdits es
  have ho := ne_empty_of_validate hv
  have hfound : r.info? c.name = some c := hr.mem_list_iff.mp hc
  have hn := (hr.info?_eq_some hfound).2
  have hmisread {other : String} (h : Misreads config.opening c.name other) :
      (∃ d ∈ r.list, d.name = other ∧
        reply r config.opening entry = .ok (describe config.opening d)) ∨
      ((∀ d ∈ r.list, d.name ≠ other) ∧ reply r config.opening entry =
        .error (.failed ("No such command \"" ++ other ++ "\""))) := by
    rw [reply_entry r hn (stripAll_of_misreads ho hn h)]
    cases hi : r.info? other with
    | some d =>
        obtain ⟨rfl, -⟩ := hr.info?_eq_some hi
        exact .inl ⟨d, hr.mem_list_iff.mpr hi, rfl, rfl⟩
    | none =>
        refine .inr ⟨fun d hd he => ?_, rfl⟩
        rw [← he, hr.mem_list_iff.mp hd] at hi
        cases hi
  refine ⟨fun text => reply_of_isBlank r config.opening, ⟨fun hreply => ?_, fun h => ?_⟩,
    fun h => ?_⟩
  · refine (readsBack_or_misreads ho c.name).resolve_right ?_
    rintro ⟨other, h⟩
    rcases hmisread h with ⟨d, hd, hname, htold⟩ | ⟨-, htold⟩
    · have hd := hr.info?_eq_some (hr.mem_list_iff.mp hd)
      have hsame := name_eq_of_describe_eq hn hd.2 (Except.ok.inj (hreply.symm.trans htold))
      exact h.ne ho (hname ▸ hsame.symm)
    · cases hreply.symm.trans htold
  · rw [reply_entry r hn (stripAll_of_readsBack ho hn h), hfound, Option.elim_some]
  · obtain ⟨other, hm⟩ := (readsBack_or_misreads ho c.name).resolve_left h
    exact ⟨other, hm, hm.ne ho, hmisread hm⟩

namespace Sample

/-- Two commands, one of which is named as the other one is called. -/
def edits : List (RegistryEdit Unit) :=
  [.register "owner" "echo" "Say it", .register "owner" "!echo" "Shout it"]

/-- The first command. -/
def echo : CommandInfo := ⟨"echo", "owner", "Say it"⟩

/-- The second command. -/
def shout : CommandInfo := ⟨"!echo", "owner", "Shout it"⟩

end Sample

theorem entries_looked_up_sample :
    Config.validate {} = .ok () ∧ Sample.echo ∈ (Registry.afterEdits {} Sample.edits).list ∧
      ReadsBack "!" "echo" ∧
      reply (Registry.afterEdits {} Sample.edits) "!" "!echo" = .ok "!echo: Say it" := by
  have hv : Config.validate {} = .ok () := rfl
  have hm : Sample.echo ∈ (Registry.afterEdits {} Sample.edits).list := by decide +kernel
  have hb : ReadsBack "!" "echo" := by
    refine .inr ⟨?_, by decide⟩
    rintro c ⟨⟩
    decide
  have hd : describe "!" Sample.echo = "!echo: Say it" := by decide +kernel
  have hreply := (entries_looked_up hv Sample.edits hm).2.1.mpr hb
  exact ⟨hv, hm, hb, hd ▸ hreply⟩

/-- The entry `!!echo` of the list tells about `!echo` where there is a command `echo`, and is
unknown where there is none.  With an opening that begins with a space, the entry of `echo` is
unknown. -/
theorem entry_misread :
    Config.validate {} = .ok () ∧ Config.validate { opening := " !" } = .ok () ∧
      Sample.shout ∈ (Registry.afterEdits {} Sample.edits).list ∧
      describe "!" Sample.shout = "!!echo: Shout it" ∧
      reply (Registry.afterEdits {} Sample.edits) "!" "!!echo" = .ok "!echo: Say it" ∧
      reply (Registry.afterEdits {} (Sample.edits ++ [.unregister "echo"])) "!" "!!echo" =
        .error (.failed "No such command \"echo\"") ∧
      reply (Registry.afterEdits {} (Sample.edits ++ [.unregister "!echo"])) " !" " !echo" =
        .error (.failed "No such command \"!echo\"") := by
  refine ⟨rfl, ?_, ?_, ?_, ?_, ?_, ?_⟩ <;> decide +kernel

end ChatBot.Help
