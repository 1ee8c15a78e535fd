import ChatBot.Proofs.Evaluation.Variables
import ChatBot.Proofs.Text.Whitespace

/-!
# What evaluations publish

Replies are data: what comes back for a command is spliced in as it is.  So an expression alone says
how many commands are published at most, and each of them is made of its literal texts and of texts
that were heard before.

* `Dialogue.Spends`: a bound on what is published; `spends_walk`: the one that an expression sets.
* `IsRequest`: what a command looks like; `meets_walk`: every command of an expression does.
* `walk_substituteIn`: to use a variable is to have its value there as a text.
* `Ensemble.replies_are_data`: all of it, of every evaluation.
-/

namespace ChatBot

/-! ### How much is published -/

mutual

/-- At how many places in a part of an expression, at all depths, a command may be published. -/
def Node.pauses : Node → Nat
  | .subtree children => 1 + Node.pausesIn children
  | .assign _ value => 1 + Node.pausesIn value
  | .suppress => 1
  | .literal _ | .deref _ => 0

/-- The same of several parts. -/
def Node.pausesIn : List Node → Nat
  | [] => 0
  | n :: ns => n.pauses + Node.pausesIn ns

end

namespace Dialogue

variable {α β : Type}

/-- However it is answered, no more than `n` commands are published. -/
def Spends (n : Nat) (d : Dialogue α) : Prop :=
  ∀ heard, d.Meets (fun later _ => later.length < heard.length + n)
    (fun later _ => later.length ≤ heard.length + n) heard

theorem Spends.bind {m n : Nat} {d : Dialogue β} {f : β → Dialogue α} (h : d.Spends m)
    (hf : ∀ b, (f b).Spends n) : (d.bind f).Spends (m + n) := by
  intro heard
  have hd : d.Meets (fun later _ => later.length < heard.length + (m + n))
      (fun later _ => later.length ≤ heard.length + m) heard :=
    (h heard).mono (fun _ _ _ hl => by omega) fun _ _ _ hl => hl
  refine hd.bind (fun later b _ hl => ?_) fun later e _ hl => ?_
  · exact (hf b later).mono (fun _ _ _ hlt => by omega) fun _ _ _ hle => by omega
  · omega

theorem spends_done (a : α) : (done a).Spends 0 := fun _ => Nat.le_refl _

theorem spends_ofSuppressed (command : String) : (ofSuppressed command).Spends 1 := by
  intro heard
  rw [ofSuppressed]
  split
  · exact Nat.le_succ _
  · exact ⟨Nat.lt_succ_self _, fun text => by simp [Meets]⟩

theorem spends_ofCommand (opening command : String) : (ofCommand opening command).Spends 1 := by
  intro heard
  rw [ofCommand]
  split
  · exact ⟨Nat.lt_succ_self _, fun text => by simp [Meets]⟩
  · exact Nat.le_succ _

end Dialogue

mutual

theorem spends_run (opening : String) : ∀ (n : Node) (p : Progress),
    (n.run opening p).Spends n.pauses
  | .literal text, p => by
      rw [Node.run]
      exact Dialogue.spends_done _
  | .deref name, p => by
      rw [Node.run]
      cases p.scope.lookup name with
      | some value => exact Dialogue.spends_done _
      | none => exact fun _ => Nat.le_refl _
  | .subtree children, p => by
      rw [Node.run, Node.pauses]
      exact (spends_walk opening children ⟨p.scope.child, ""⟩).bind fun _ => Dialogue.spends_done _
  | .assign name value, p => by
      rw [Node.run, Node.pauses]
      exact (spends_walk opening value ⟨p.scope.child, ""⟩).bind fun _ => Dialogue.spends_done _
  | .suppress, p => by
      rw [Node.run, Node.pauses]
      exact (Dialogue.spends_ofSuppressed p.command).bind fun _ => Dialogue.spends_done _

/-- An expression publishes a command at the end, and at its pauses. -/
theorem spends_walk (opening : String) : ∀ (nodes : List Node) (p : Progress),
    (Node.walk opening nodes p).Spends (1 + Node.pausesIn nodes)
  | [], p => by
      rw [Node.walk]
      exact Dialogue.spends_ofCommand opening p.command
  | n :: ns, p => by
      rw [Node.walk, Node.pausesIn, Nat.add_left_comm]
      exact (spends_run opening n p).bind fun p' => spends_walk opening ns p'

end

/-! ### What is published -/

mutual

/-- The literal texts in a part of an expression, at all depths. -/
def Node.literals : Node → List String
  | .literal text => [text]
  | .subtree children => Node.literalsIn children
  | .assign _ value => Node.literalsIn value
  | .deref _ | .suppress => []

/-- The same of several parts. -/
def Node.literalsIn : List Node → List String
  | [] => []
  | n :: ns => n.literals ++ Node.literalsIn ns

end

/-- A text is put together from literal texts and from texts that were heard. -/
def Spliced (literals heard : List String) (text : String) : Prop :=
  ∃ pieces, text = String.join pieces ∧ ∀ piece ∈ pieces, piece ∈ literals ∨ piece ∈ heard

namespace Spliced

variable {literals heard later : List String} {text more : String}

theorem empty : Spliced literals heard "" := ⟨[], rfl, fun _ hp => absurd hp List.not_mem_nil⟩

theorem of_literal (h : text ∈ literals) : Spliced literals heard text :=
  ⟨[text], by simp, by simpa using .inl h⟩

theorem of_heard (h : text ∈ heard) : Spliced literals heard text :=
  ⟨[text], by simp, by simpa using .inr h⟩

theorem append (h : Spliced literals heard text) (hm : Spliced literals heard more) :
    Spliced literals heard (text ++ more) := by
  obtain ⟨pieces, rfl, hp⟩ := h
  obtain ⟨others, rfl, ho⟩ := hm
  refine ⟨pieces ++ others, by simp, fun piece hm => ?_⟩
  exact (List.mem_append.mp hm).elim (hp piece) (ho piece)

theorem mono (h : Spliced literals heard text) (hl : heard <+: later) :
    Spliced literals later text := by
  obtain ⟨pieces, rfl, hp⟩ := h
  exact ⟨pieces, rfl, fun piece hm => (hp piece hm).imp_right fun hh => hl.subset hh⟩

end Spliced

/-- A command as it is published: some text without surrounding whitespace, put together from
literal texts and from texts that were heard. -/
structure IsRequest (literals heard : List String) (command : String) : Prop where
  ne_empty : command ≠ ""
  isTrimmed : Text.IsTrimmed command
  spliced : ∃ built, Spliced literals heard built ∧ command = Text.trim built

/-- The command that is built and the values of the variables are spliced. -/
structure Progress.IsSpliced (literals heard : List String) (p : Progress) : Prop where
  command : Spliced literals heard p.command
  values : ∀ name value, p.scope.lookup name = some value → Spliced literals heard value

namespace Progress.IsSpliced

variable {literals heard later : List String} {p : Progress} {text : String}

theorem mono (h : p.IsSpliced literals heard) (hl : heard <+: later) :
    p.IsSpliced literals later where
  command := h.command.mono hl
  values name value hv := (h.values name value hv).mono hl

theorem append (h : p.IsSpliced literals heard) (ht : Spliced literals heard text) :
    ({ p with command := p.command ++ text } : Progress).IsSpliced literals heard where
  command := h.command.append ht
  values := h.values

theorem child (h : p.IsSpliced literals heard) :
    (⟨p.scope.child, ""⟩ : Progress).IsSpliced literals heard where
  command := .empty
  values := h.values

theorem insert (h : p.IsSpliced literals heard) (name : String)
    (ht : Spliced literals heard text) :
    ({ p with scope := p.scope.insert name text } : Progress).IsSpliced literals heard where
  command := h.command
  values other value hv := by
    rw [Scope.lookup_insert] at hv
    split at hv
    · cases hv
      exact ht
    · exact h.values other value hv

theorem clear (h : p.IsSpliced literals heard) :
    ({ p with command := "" } : Progress).IsSpliced literals heard where
  command := .empty
  values := h.values

end Progress.IsSpliced

theorem meets_ofSuppressed {literals heard : List String} {command : String}
    (h : Spliced literals heard command) :
    (Dialogue.ofSuppressed command).Meets (IsRequest literals)
      (fun _ => IfOk fun _ => True) heard := by
  rw [Dialogue.ofSuppressed]
  split
  · trivial
  · rename_i hb
    rw [Bool.not_eq_true] at hb
    exact ⟨⟨Text.trim_ne_empty hb, Text.isTrimmed_trim command, command, h, rfl⟩, fun _ => trivial⟩

theorem meets_ofCommand {opening : String} (ho : opening ≠ "") {literals heard : List String}
    {command : String} (h : Spliced literals heard command) :
    (Dialogue.ofCommand opening command).Meets (IsRequest literals)
      (fun later => IfOk (Spliced literals later)) heard := by
  rw [Dialogue.ofCommand]
  split
  · rename_i hs
    refine ⟨⟨fun he => ?_, Text.isTrimmed_trim command, command, h, rfl⟩, fun text =>
      .of_heard (List.mem_append_right _ (List.mem_singleton_self _))⟩
    rw [he, startsWith, List.isPrefixOf_iff_prefix] at hs
    exact ho (String.toList_eq_nil_iff.mp (List.prefix_nil.mp hs))
  · exact h

mutual

/-- A part of an expression publishes requests, and keeps what is built spliced. -/
theorem meets_run {opening : String} (ho : opening ≠ "") {literals : List String} :
    ∀ (n : Node) (p : Progress) (heard : List String), n.literals ⊆ literals →
      p.IsSpliced literals heard → (n.run opening p).Meets (IsRequest literals)
        (fun later => IfOk (Progress.IsSpliced literals later)) heard
  | .literal text, p, heard, hn, hp => by
      rw [Node.run]
      exact hp.append (.of_literal (hn (List.mem_singleton_self text)))
  | .deref name, p, heard, _, hp => by
      rw [Node.run]
      cases hl : p.scope.lookup name with
      | some value => exact hp.append (hp.values name value hl)
      | none => trivial
  | .subtree children, p, heard, hn, hp => by
      rw [Node.run]
      exact (meets_walk ho children ⟨p.scope.child, ""⟩ heard hn hp.child).bind_ifOk
        fun later result hl hr => (hp.mono hl).append hr
  | .assign name value, p, heard, hn, hp => by
      rw [Node.run]
      exact (meets_walk ho value ⟨p.scope.child, ""⟩ heard hn hp.child).bind_ifOk
        fun later result hl hr => (hp.mono hl).insert name hr
  | .suppress, p, heard, _, hp => by
      rw [Node.run]
      exact (meets_ofSuppressed hp.command).bind_ifOk fun later _ hl _ => (hp.mono hl).clear

/-- So do several parts, and the result is spliced. -/
theorem meets_walk {opening : String} (ho : opening ≠ "") {literals : List String} :
    ∀ (nodes : List Node) (p : Progress) (heard : List String), Node.literalsIn nodes ⊆ literals →
      p.IsSpliced literals heard → (Node.walk opening nodes p).Meets (IsRequest literals)
        (fun later => IfOk (Spliced literals later)) heard
  | [], p, heard, _, hp => by
      rw [Node.walk]
      exact meets_ofCommand ho hp.command
  | n :: ns, p, heard, hn, hp => by
      rw [Node.literalsIn, List.append_subset] at hn
      rw [Node.walk]
      exact (meets_run ho n p heard hn.1 hp).bind_ifOk
        fun later p' _ hp' => meets_walk ho ns p' later hn.2 hp'

end

/-! ### Values as texts -/

namespace Plain.Variables

/-- Without the variables of these names. -/
def without (vars : Variables) (names : List String) : Variables :=
  fun name => if name ∈ names then none else vars name

/-- One variable. -/
def only (name value : String) : Variables := fun other => if other = name then some value else none

end Plain.Variables

mutual

/-- A part of an expression with texts in place of variables. -/
def Node.substitute (vars : Plain.Variables) : Node → Node
  | .literal text => .literal text
  | .deref name =>
    match vars name with
    | some value => .literal value
    | none => .deref name
  | .subtree children => .subtree (Node.substituteIn vars children)
  | .assign name value => .assign name (Node.substituteIn vars value)
  | .suppress => .suppress

/-- The same of several parts.  A variable that is assigned again is another one from there on. -/
def Node.substituteIn (vars : Plain.Variables) : List Node → List Node
  | [] => []
  | n :: ns => n.substitute vars :: Node.substituteIn (vars.without n.binds) ns

end

/-- What one scope knows, the other one knows together with these variables. -/
def Scope.Splits (s : Scope) (vars : Plain.Variables) (s' : Scope) : Prop :=
  ∀ name, s.lookup name = (vars name).or (s'.lookup name)

theorem Scope.Splits.child {s s' : Scope} {vars : Plain.Variables} (h : s.Splits vars s') :
    s.child.Splits vars s'.child := h

theorem Scope.Splits.insert {s s' : Scope} {vars : Plain.Variables} (h : s.Splits vars s')
    (name value : String) :
    (s.insert name value).Splits (vars.without [name]) (s'.insert name value) := fun other => by
  rw [lookup_insert, lookup_insert, Plain.Variables.without]
  by_cases ho : other = name
  · simp [ho]
  · simp [ho, h other]

theorem Scope.splits_insert (s : Scope) (name value : String) :
    (s.insert name value).Splits (.only name value) s := fun other => by
  rw [lookup_insert, Plain.Variables.only]
  split <;> simp

/-! What comes of the part that comes first. -/

section
variable (opening : String) (ns : List Node) (p : Progress)

theorem walk_literal (text : String) : Node.walk opening (.literal text :: ns) p =
    Node.walk opening ns { p with command := p.command ++ text } := by
  rw [Node.walk, Node.run]
  rfl

theorem walk_deref (name : String) : Node.walk opening (.deref name :: ns) p =
    match p.scope.lookup name with
    | some value => Node.walk opening ns { p with command := p.command ++ value }
    | none => .fail (.unboundVariable name) := by
  rw [Node.walk, Node.run]
  cases p.scope.lookup name <;> rfl

theorem walk_subtree (children : List Node) : Node.walk opening (.subtree children :: ns) p =
    (Node.walk opening children ⟨p.scope.child, ""⟩).bind fun result =>
      Node.walk opening ns { p with command := p.command ++ result } := by
  rw [Node.walk, Node.run]
  exact Dialogue.bind_bind _ _ _

theorem walk_assign (name : String) (value : List Node) :
    Node.walk opening (.assign name value :: ns) p =
      (Node.walk opening value ⟨p.scope.child, ""⟩).bind fun result =>
        Node.walk opening ns { p with scope := p.scope.insert name result } := by
  rw [Node.walk, Node.run]
  exact Dialogue.bind_bind _ _ _

theorem walk_suppress : Node.walk opening (.suppress :: ns) p =
    (Dialogue.ofSuppressed p.command).bind fun _ =>
      Node.walk opening ns { p with command := "" } := by
  rw [Node.walk, Node.run]
  exact Dialogue.bind_bind _ _ _

end

/-- **To use variables is to have their values as texts.** -/
theorem walk_substituteIn (opening : String) (nodes : List Node) (vars : Plain.Variables)
    (s s' : Scope) (command : String) (h : s.Splits vars s') :
    Node.walk opening nodes ⟨s, command⟩ =
      Node.walk opening (Node.substituteIn vars nodes) ⟨s', command⟩ := by
  -- by the parts that are left and those inside them; levels inside begin with the same split
  match nodes with
  | [] => rw [Node.substituteIn, Node.walk, Node.walk]
  | .literal text :: ns =>
      rw [Node.substituteIn, Node.substitute, walk_literal, walk_literal]
      exact walk_substituteIn opening ns vars s s' _ h
  | .deref name :: ns =>
      have ih (text : String) := walk_substituteIn opening ns vars s s' (command ++ text) h
      rw [Node.substituteIn, Node.substitute, walk_deref, h name]
      cases vars name with
      | some value =>
          rw [walk_literal]
          exact ih value
      | none =>
          rw [walk_deref, Option.none_or]
          cases s'.lookup name with
          | some value => exact ih value
          | none => rfl
  | .subtree children :: ns =>
      have ih := walk_substituteIn opening children vars s.child s'.child "" h.child
      rw [Node.substituteIn, Node.substitute, walk_subtree, walk_subtree, ih]
      exact congrArg _ (funext fun result => walk_substituteIn opening ns vars s s' _ h)
  | .assign name value :: ns =>
      have ih := walk_substituteIn opening value vars s.child s'.child "" h.child
      rw [Node.substituteIn, Node.substitute, walk_assign, walk_assign, ih]
      -- both scopes know the new value, so the old one must not be put in from here on
      exact congrArg _ (funext fun result =>
        walk_substituteIn opening ns _ _ _ command (h.insert name result))
  | .suppress :: ns =>
      rw [Node.substituteIn, Node.substitute, walk_suppress, walk_suppress]
      exact congrArg _ (funext fun _ => walk_substituteIn opening ns vars s s' "" h)

/-- The value of a variable is computed once, where it is assigned, however often it is used. -/
theorem walk_append_assign (opening : String) (before after : List Node) (name : String)
    (value : List Node) (p : Progress) :
    Node.walk opening (before ++ .assign name value :: after) p =
      (Node.runAll opening before p).bind fun p' =>
        (Node.walk opening value ⟨p'.scope.child, ""⟩).bind fun result =>
          Node.walk opening (Node.substituteIn (.only name result) after) p' := by
  rw [Node.walk_append]
  refine congrArg _ (funext fun p' => ?_)
  rw [walk_assign]
  exact congrArg _ (funext fun result =>
    walk_substituteIn opening after _ _ _ p'.command (p'.scope.splits_insert name result))

/-- The result of a nested expression is a text like any other. -/
theorem walk_append_subtree (opening : String) (before after children : List Node) (p : Progress) :
    Node.walk opening (before ++ .subtree children :: after) p =
      (Node.runAll opening before p).bind fun p' =>
        (Node.walk opening children ⟨p'.scope.child, ""⟩).bind fun result =>
          Node.walk opening (.literal result :: after) p' := by
  rw [Node.walk_append]
  refine congrArg _ (funext fun p' => ?_)
  rw [walk_subtree]
  exact congrArg _ (funext fun result => (walk_literal opening after p' result).symm)

/-! ### Evaluations -/

namespace Ensemble

variable {σ : Ensemble} {a : CorrelationId} {e : Evaluation} {nodes : List Node}

/-- An evaluation has published what its expression allows. -/
theorem length_commands_le (h : Reachable σ) (he : σ.evaluations a = some e)
    (hp : e.language.parse e.text = .ok nodes) :
    (σ.commands a).length ≤ 1 + Node.pausesIn nodes := by
  have hs : e.phase.Stands False _ _ _ := h.stands (fun hf => hf.elim) e he
  have hspends : (e.language.evaluate e.text).Spends (1 + Node.pausesIn nodes) := by
    rw [Language.evaluate, hp]
    exact spends_walk e.language.opening nodes ⟨.empty, ""⟩
  have hlen := hs.carriesOn.length_le
  rw [commands, List.length_map]
  by_contra hmore
  -- one command too many would have come after that many texts
  have hlt : 1 + Node.pausesIn nodes < (publishedBy a σ.history).length := Nat.not_le.mp hmore
  have hsaid := hs.carriesOn.said (hspends []) _ _ _ (List.getElem?_eq_getElem hlt)
  rw [List.length_map, List.length_take, List.length_nil] at hsaid
  omega

/-- What an evaluation has published are requests, each made of what had been heard by then. -/
theorem isRequest_of_commands (h : Reachable σ) (he : σ.evaluations a = some e)
    (hp : e.language.parse e.text = .ok nodes) (ho : e.language.opening ≠ "") {i : Nat}
    {command : String} (hi : (σ.commands a)[i]? = some command) :
    IsRequest (Node.literalsIn nodes) (((toldTo a σ.history).take i).map (·.2)) command := by
  have hs : e.phase.Stands False _ _ _ := h.stands (fun hf => hf.elim) e he
  have hspliced : (⟨.empty, ""⟩ : Progress).IsSpliced (Node.literalsIn nodes) [] :=
    ⟨.empty, fun name value hv => (by cases hv)⟩
  have hmeets := meets_walk ho nodes ⟨.empty, ""⟩ [] (List.Subset.refl _) hspliced
  have hd : e.language.evaluate e.text = Node.walk e.language.opening nodes ⟨.empty, ""⟩ := by
    rw [Language.evaluate, hp]
  rw [commands, List.getElem?_map, Option.map_eq_some_iff] at hi
  obtain ⟨⟨listener, published⟩, hi, rfl⟩ := hi
  exact hs.carriesOn.said (hd ▸ hmeets) i listener published hi

/-- **Replies are data, and work is bounded by the expression.**  Of every evaluation whose
expression has been parsed, whatever is replied and whatever else happens,

* it publishes one command at most for each pause in the tree that its own text was parsed to, and
  one at the end;
* if commands start in some way at all, each one that it publishes is a text without whitespace
  around it, and apart from that whitespace the literal texts of this tree and texts that were
  replied before, one after the other, as they are.

On every level of every expression, the value of a variable is computed once where it is assigned,
and stands as a text where it is used; and so does the result of a nested expression. -/
theorem replies_are_data (h : Reachable σ) (he : σ.evaluations a = some e)
    (hp : e.language.parse e.text = .ok nodes) :
    (σ.commands a).length ≤ 1 + Node.pausesIn nodes ∧
    (e.language.opening ≠ "" → ∀ (i : Nat) command, (σ.commands a)[i]? = some command →
      command ≠ "" ∧ Text.IsTrimmed command ∧
        ∃ pieces, command = Text.trim (String.join pieces) ∧
          ∀ piece ∈ pieces, piece ∈ Node.literalsIn nodes ∨
            piece ∈ ((toldTo a σ.history).take i).map (·.2)) ∧
    (∀ opening before after name value p,
      Node.walk opening (before ++ .assign name value :: after) p =
        (Node.runAll opening before p).bind fun p' =>
          (Node.walk opening value ⟨p'.scope.child, ""⟩).bind fun result =>
            Node.walk opening (Node.substituteIn (.only name result) after) p') ∧
    ∀ opening before after children p,
      Node.walk opening (before ++ .subtree children :: after) p =
        (Node.runAll opening before p).bind fun p' =>
          (Node.walk opening children ⟨p'.scope.child, ""⟩).bind fun result =>
            Node.walk opening (.literal result :: after) p' := by
  refine ⟨length_commands_le h he hp, fun ho i command hi => ?_, walk_append_assign,
    walk_append_subtree⟩
  obtain ⟨hne, htrimmed, built, ⟨pieces, rfl, hpieces⟩, hbuilt⟩ :=
    isRequest_of_commands h he hp ho hi
  exact ⟨hne, htrimmed, pieces, hbuilt, hpieces⟩

theorem replies_are_data_sample :
    Reachable Sample.ended ∧
      Sample.ended.evaluations Sample.address =
        some (Sample.evaluation (.talking (.done "ok"))) ∧
      Language.parse {} "!a" = .ok [.literal "!a"] ∧ Language.opening {} ≠ "" ∧
      Sample.ended.commands Sample.address = ["!a"] ∧
      ∃ pieces, "!a" = Text.trim (String.join pieces) ∧ ∀ piece ∈ pieces, piece = "!a" := by
  have h : Reachable Sample.ended := Sample.run fun _ _ => trivial
  have he : Sample.ended.evaluations Sample.address =
      some (Sample.evaluation (.talking (.done "ok"))) := evaluations_move_self _ _ _ _
  have hc : Sample.ended.commands Sample.address = ["!a"] := by
    rw [commands, Sample.history_ended]
    rfl
  have ho : Language.opening {} ≠ "" := by decide
  obtain ⟨-, hrequests, -, -⟩ := replies_are_data h he Sample.parse_text
  obtain ⟨-, -, pieces, hjoin, hpieces⟩ := hrequests ho 0 "!a" (by rw [hc]; rfl)
  refine ⟨h, he, Sample.parse_text, ho, hc, pieces, hjoin, fun piece hm => ?_⟩
  simpa [Node.literalsIn, Node.literals] using hpieces piece hm

end Ensemble

end ChatBot
