import ChatBot.Proofs.Evaluation.Conversations

/-!
# Which variables are bound

Whether a name is bound when it is used can be read off the expression: the names that are bound
where a part is reached are those that were assigned to the left of it, on its own level or on one
around it.  Replies have no say in this.

* `Node.firstUnboundIn` looks for the first name that is used without being bound.
* `Scope.Binds` ties the names that it knows to the variables at that point of an evaluation, and
  `endsIn_walk` carries this through an expression.
* `endsIn_runAll_sameBut`: what is bound inside a nested expression or a value stays there.
* `Ensemble.unbound_predictable`: an evaluation fails for an unbound name just when one is found and
  everything before it is answered.
-/

namespace ChatBot

/-! ### The check -/

/-- The names that a part of an expression binds on its own level. -/
def Node.binds : Node → List String
  | .assign name _ => [name]
  | _ => []

mutual

/-- The first name that is used in a part of an expression without being bound, where the names
`bound` are. -/
def Node.firstUnbound (bound : List String) : Node → Option String
  | .literal _ | .suppress => none
  | .deref name => if name ∈ bound then none else some name
  | .subtree children => Node.firstUnboundIn bound children
  | .assign _ value => Node.firstUnboundIn bound value

/-- The same of several parts, where each sees what the ones before it bind. -/
def Node.firstUnboundIn (bound : List String) : List Node → Option String
  | [] => none
  | n :: ns => (n.firstUnbound bound).or (Node.firstUnboundIn (n.binds ++ bound) ns)

end

/-! ### Scopes -/

namespace Scope

variable {s : Scope} {bound : List String} {name : String}

theorem lookup_insert (s : Scope) (name value other : String) :
    (s.insert name value).lookup other = if other = name then some value else s.lookup other := by
  have h := congrFun (flat_insert s name value) other
  rwa [Function.update_apply] at h

/-- These names are bound, and no others. -/
def Binds (s : Scope) (bound : List String) : Prop :=
  ∀ name, (s.lookup name).isSome ↔ name ∈ bound

theorem binds_empty : empty.Binds [] := fun name => by simp [empty, lookup]

theorem Binds.child (h : s.Binds bound) : s.child.Binds bound := h

theorem Binds.insert (h : s.Binds bound) (name value : String) :
    (s.insert name value).Binds (name :: bound) := fun other => by
  rw [lookup_insert, List.mem_cons, ← h other]
  by_cases ho : other = name <;> simp [ho]

end Scope

/-! ### Evaluating what was checked -/

/-- Where the check has found something, that is the failure; else there is a result, of which `P`
holds. -/
def EndsBy {α : Type} (first? : Option String) (P : α → Prop) : Except EvalError α → Prop
  | .ok a => first? = none ∧ P a
  | .error e => ∃ name, first? = some name ∧ e = .unboundVariable name

theorem EndsBy.eq_error_iff {α : Type} {first? : Option String} {P : α → Prop}
    {r : Except EvalError α} (h : EndsBy first? P r) (name : String) :
    r = .error (.unboundVariable name) ↔ first? = some name := by
  cases r with
  | ok a => simp [h.1]
  | error e =>
      obtain ⟨found, hf, rfl⟩ := h
      simp [hf]

/-- However it is answered, the conversation ends in a way that meets `Q`. -/
def Dialogue.EndsIn {α : Type} (d : Dialogue α) (Q : Except EvalError α → Prop) : Prop :=
  ∀ heard, d.Meets (fun _ _ => True) (fun _ => Q) heard

theorem Dialogue.EndsIn.bind {α β : Type} {d : Dialogue β} {f : β → Dialogue α}
    {P : Except EvalError β → Prop} {Q : Except EvalError α → Prop} (h : d.EndsIn P)
    (hok : ∀ b, P (.ok b) → (f b).EndsIn Q) (herror : ∀ e, P (.error e) → Q (.error e)) :
    (d.bind f).EndsIn Q :=
  fun heard => (h heard).bind (fun later b _ hb => hok b hb later) fun _ e _ he => herror e he

theorem Dialogue.EndsIn.mono {α : Type} {d : Dialogue α} {Q Q' : Except EvalError α → Prop}
    (h : d.EndsIn Q) (hQ : ∀ r, Q r → Q' r) : d.EndsIn Q' :=
  fun heard => (h heard).mono (fun _ _ _ hc => hc) fun _ r _ hr => hQ r hr

theorem Dialogue.endsIn_true {α : Type} (d : Dialogue α) : d.EndsIn fun _ => True := by
  intro heard
  induction d generalizing heard with
  | done a => trivial
  | fail e => trivial
  | ask command resume ih => exact ⟨trivial, fun text => ih text _⟩

/-- Where all that is done with a result is to put it somewhere. -/
theorem Dialogue.EndsIn.of_bind_done {α β : Type} {d : Dialogue β} {f : β → α} {P : α → Prop}
    (h : ∀ b, P (f b)) : (d.bind fun b => done (f b)).EndsIn (IfOk P) :=
  d.endsIn_true.bind (fun b _ _ => h b) fun _ _ => trivial

theorem Dialogue.endsIn_ofSuppressed (command : String) :
    (Dialogue.ofSuppressed command).EndsIn fun r => r = .ok () := by
  intro heard
  rw [Dialogue.ofSuppressed]
  split
  · exact rfl
  · exact ⟨trivial, fun _ => rfl⟩

theorem Dialogue.endsIn_ofCommand (opening command : String) :
    (Dialogue.ofCommand opening command).EndsIn fun r => ∃ text, r = .ok text := by
  intro heard
  rw [Dialogue.ofCommand]
  split
  · exact ⟨trivial, fun text => ⟨text, rfl⟩⟩
  · exact ⟨command, rfl⟩

mutual

/-- A part of an expression fails for the name that the check has found; otherwise the names are
bound that the check goes on with. -/
theorem endsIn_run (opening : String) : ∀ (n : Node) (p : Progress) (bound : List String),
    p.scope.Binds bound → (n.run opening p).EndsIn
      (EndsBy (n.firstUnbound bound) fun p' => p'.scope.Binds (n.binds ++ bound))
  | .literal text, p, bound, hb => fun heard => by
      rw [Node.run]
      exact ⟨rfl, hb⟩
  | .deref name, p, bound, hb => fun heard => by
      rw [Node.run, Node.firstUnbound]
      cases hl : p.scope.lookup name with
      | some value =>
          rw [if_pos ((hb name).mp (by rw [hl]; rfl))]
          exact ⟨rfl, hb⟩
      | none =>
          rw [if_neg fun hm => by simpa [hl] using (hb name).mpr hm]
          exact ⟨name, rfl, rfl⟩
  | .subtree children, p, bound, hb => by
      have ih := endsIn_walk opening children ⟨p.scope.child, ""⟩ bound hb.child
      rw [Node.run, Node.firstUnbound]
      exact ih.bind (fun result hr heard => ⟨hr.1, hb⟩) fun e he => he
  | .assign name value, p, bound, hb => by
      have ih := endsIn_walk opening value ⟨p.scope.child, ""⟩ bound hb.child
      rw [Node.run, Node.firstUnbound]
      exact ih.bind (fun result hr heard => ⟨hr.1, hb.insert name result⟩) fun e he => he
  | .suppress, p, bound, hb => by
      rw [Node.run]
      exact (Dialogue.endsIn_ofSuppressed p.command).bind (fun _ _ heard => ⟨rfl, hb⟩)
        fun e he => (by cases he)

/-- So do several parts, one after the other. -/
theorem endsIn_walk (opening : String) : ∀ (nodes : List Node) (p : Progress) (bound : List String),
    p.scope.Binds bound →
      (Node.walk opening nodes p).EndsIn (EndsBy (Node.firstUnboundIn bound nodes) fun _ => True)
  | [], p, bound, hb => by
      rw [Node.walk]
      refine (Dialogue.endsIn_ofCommand opening p.command).mono fun r hr => ?_
      obtain ⟨text, rfl⟩ := hr
      exact ⟨rfl, trivial⟩
  | n :: ns, p, bound, hb => by
      rw [Node.walk, Node.firstUnboundIn]
      refine (endsIn_run opening n p bound hb).bind (fun p' hp => ?_) fun e he => ?_
      · rw [hp.1, Option.none_or]
        exact endsIn_walk opening ns p' (n.binds ++ bound) hp.2
      · obtain ⟨name, hname, rfl⟩ := he
        exact ⟨name, by rw [hname, Option.some_or], rfl⟩

end

/-! ### Inner bindings -/

/-- The parts of an expression, one after the other, without what becomes of the command. -/
def Node.runAll (opening : String) (nodes : List Node) (p : Progress) : Dialogue Progress :=
  match nodes with
  | [] => .done p
  | n :: ns => (n.run opening p).bind (Node.runAll opening ns)

theorem Node.walk_append (opening : String) (before after : List Node) (p : Progress) :
    walk opening (before ++ after) p =
      (runAll opening before p).bind fun p' => walk opening after p' := by
  induction before generalizing p with
  | nil => rfl
  | cons n ns ih =>
      rw [List.cons_append, walk, runAll, Dialogue.bind_eq, Dialogue.bind_bind]
      exact congrArg _ (funext ih)

/-- Variables of other names are as they were. -/
def Scope.SameBut (s : Scope) (names : List String) (s' : Scope) : Prop :=
  ∀ name, name ∉ names → s'.lookup name = s.lookup name

theorem Scope.sameBut_self (s : Scope) (names : List String) : s.SameBut names s := fun _ _ => rfl

theorem Scope.sameBut_insert (s : Scope) (name value : String) :
    s.SameBut [name] (s.insert name value) := fun other ho => by
  rw [lookup_insert, if_neg (List.ne_of_not_mem_cons ho)]

theorem endsIn_run_sameBut (opening : String) (n : Node) (p : Progress) :
    (n.run opening p).EndsIn (IfOk fun p' => p.scope.SameBut n.binds p'.scope) := by
  cases n with
  | literal text => exact fun heard => p.scope.sameBut_self _
  | deref name =>
      intro heard
      rw [Node.run]
      cases p.scope.lookup name with
      | some value => exact p.scope.sameBut_self _
      | none => trivial
  | subtree children => exact .of_bind_done fun result => p.scope.sameBut_self _
  | assign name value => exact .of_bind_done fun result => p.scope.sameBut_insert name result
  | suppress => exact .of_bind_done fun _ => p.scope.sameBut_self _

/-- **What is bound inside a nested expression or a value is not bound outside.**  Of the names that
are known after some parts of an expression, those that these parts do not assign themselves are
known from before, with the same values. -/
theorem endsIn_runAll_sameBut (opening : String) (nodes : List Node) (p : Progress) :
    (Node.runAll opening nodes p).EndsIn
      (IfOk fun p' => p.scope.SameBut (nodes.flatMap Node.binds) p'.scope) := by
  induction nodes generalizing p with
  | nil => exact fun heard => p.scope.sameBut_self _
  | cons n ns ih =>
      rw [Node.runAll]
      refine (endsIn_run_sameBut opening n p).bind (fun q hq => (ih q).mono fun r hr => ?_)
        fun e _ => trivial
      cases r with
      | error e => trivial
      | ok p' =>
          intro name hname
          rw [List.flatMap_cons, List.mem_append, not_or] at hname
          rw [hr name hname.2, hq name hname.1]

/-! ### Evaluations -/

/-- The result of an evaluation that has one. -/
def Phase.result? : Phase → Option (Except EvalError String)
  | .talking (.done text) => some (.ok text)
  | .talking (.fail e) => some (.error e)
  | _ => none

/-- Every command that the evaluation at `a` has published was answered with a text. -/
def AllAnswered (history : List Occurrence) (a : CorrelationId) : Prop :=
  ∀ listener, Published history a listener →
    ∃ reply said, .returned a listener reply ∈ history ∧ reply.body = .text said

namespace Dialogue

variable {d d' : Dialogue String} {history : List Occurrence} {a : CorrelationId} {listener : Nat}
  {command : String} {resume : String → Dialogue String}

theorem Reaches.allAnswered (h : d.Reaches (publishedBy a history) (toldTo a history) d') :
    AllAnswered history a := by
  rintro listener ⟨command, hp⟩
  have hm : listener ∈ (publishedBy a history).map (·.1) :=
    List.mem_map.mpr ⟨_, mem_publishedBy_iff.mpr hp, rfl⟩
  rw [h.listeners] at hm
  obtain ⟨⟨l, said⟩, ht, rfl⟩ := List.mem_map.mp hm
  obtain ⟨reply, hr, hs⟩ := mem_toldTo_iff.mp ht
  exact ⟨reply, said, hr, hs⟩

theorem Waits.not_allAnswered
    (h : d.Waits (publishedBy a history) (toldTo a history) listener command resume) :
    ¬ AllAnswered history a := fun hall => by
  obtain ⟨reply, said, hr, hs⟩ := hall listener ⟨command, mem_publishedBy_iff.mp h.mem⟩
  exact h.untold (List.mem_map.mpr ⟨_, mem_toldTo_iff.mpr ⟨reply, hr, hs⟩, rfl⟩)

end Dialogue

/-- An expression that has been parsed ends as the check says. -/
theorem endsIn_evaluate {l : Language} {text : String} {nodes : List Node}
    (hp : l.parse text = .ok nodes) :
    (l.evaluate text).EndsIn (EndsBy (Node.firstUnboundIn [] nodes) fun _ => True) := by
  rw [Language.evaluate, hp]
  exact endsIn_walk l.opening nodes ⟨.empty, ""⟩ [] Scope.binds_empty

namespace Ensemble

variable {σ : Ensemble} {a : CorrelationId} {e : Evaluation} {nodes : List Node}

/-- What an evaluation has come to is what its dialogue has come to, unless a command was not
answered. -/
theorem result_cases (h : Run (HasEvents a) σ) (he : σ.evaluations a = some e)
    {r : Except EvalError String} (hr : e.phase.result? = some r)
    {Q : Except EvalError String → Prop} (hq : (e.language.evaluate e.text).EndsIn Q) :
    AllAnswered σ.history a ∧ Q r ∨
      ¬ AllAnswered σ.history a ∧ ∀ name, r ≠ .error (.unboundVariable name) := by
  have hs : e.phase.Stands True _ _ _ := h.stands (fun _ _ hv => hv) e he
  generalize e.phase = p at hs hr
  cases hs with
  | @talking d' ht =>
      have hm := ht.meets (hq [])
      refine .inl ⟨ht.allAnswered, ?_⟩
      cases d' with
      | done text =>
          cases hr
          exact hm
      | fail error =>
          cases hr
          exact hm
      | ask command resume => cases hr
  | broken hb =>
      cases hr
      cases hb with
      | event hn => exact absurd trivial hn
      | timeout hw => exact .inr ⟨hw.not_allAnswered, by simp⟩
      | refused hw => exact .inr ⟨hw.not_allAnswered, by simp⟩
  | subscribed | waiting | leaving | breaking | dropping | gone => cases hr

/-- As long as all that was published is answered, an evaluation is over or can go on. -/
theorem exists_proceeds (h : Run (HasEvents a) σ) (he : σ.evaluations a = some e)
    (hall : AllAnswered σ.history a) :
    e.phase.IsOver ∨ ∃ m, e.phase.Proceeds σ.stage e.session m := by
  have hs : e.phase.Stands True _ _ _ := h.stands (fun _ _ hv => hv) e he
  cases hp : e.phase with
  | talking d =>
      cases d with
      | done text => exact .inl trivial
      | fail error => exact .inl trivial
      | ask command resume =>
          obtain ⟨⟨listener, s⟩, ho⟩ :=
            h.holds.exists_openInbox he (by rw [hp]; exact id) e.session.address
          exact .inr ⟨_, .subscribe ho⟩
  | subscribed listener command resume =>
      obtain ⟨s, hf⟩ :=
        h.holds.exists_fireTracked he (by rw [hp]; exact id) (e.session.request command)
      exact .inr ⟨_, .publish hf⟩
  | waiting listener command resume =>
      rw [hp] at hs
      cases hs with
      | waiting hw => exact absurd hall hw.not_allAnswered
  | leaving listener next => exact .inr ⟨_, .close⟩
  | gone => exact .inl trivial

/-- **Unbound variables are predictable from the text alone.**  Of an evaluation whose expression
has been parsed, whatever else happens as long as its events are there,

* the result is the failure for an unbound name just when the check finds this name first and every
  command that was published before was answered with a text;
* while all that was published is answered, it is over or can go on, which it does finitely often;
* where the check finds nothing, it does not fail for an unbound name, whatever is replied;
* what is bound inside a nested expression or a value shows nowhere outside, at any place of any
  expression and for all replies. -/
theorem unbound_predictable (h : Run (HasEvents a) σ) (he : σ.evaluations a = some e)
    (hp : e.language.parse e.text = .ok nodes) :
    (∀ r, e.phase.result? = some r → ∀ name, r = .error (.unboundVariable name) ↔
      Node.firstUnboundIn [] nodes = some name ∧ AllAnswered σ.history a) ∧
    ((AllAnswered σ.history a →
      e.phase.IsOver ∨ ∃ m, e.phase.Proceeds σ.stage e.session m) ∧ WellFounded Phase.Next) ∧
    (Node.firstUnboundIn [] nodes = none →
      ∀ name, e.phase.result? ≠ some (.error (.unboundVariable name))) ∧
    ∀ (opening : String) (before : List Node) (p : Progress),
      (Node.runAll opening before p).EndsIn
        (IfOk fun p' => p.scope.SameBut (before.flatMap Node.binds) p'.scope) := by
  have hiff (r : Except EvalError String) (hr : e.phase.result? = some r) (name : String) :
      r = .error (.unboundVariable name) ↔
        Node.firstUnboundIn [] nodes = some name ∧ AllAnswered σ.history a := by
    rcases result_cases h he hr (endsIn_evaluate hp) with ⟨hall, hends⟩ | ⟨hnot, hother⟩
    · rw [hends.eq_error_iff name, and_iff_left hall]
    · exact ⟨fun hr => absurd hr (hother name), fun hn => absurd hn.2 hnot⟩
  refine ⟨hiff, ⟨exists_proceeds h he, Phase.wellFounded_next⟩, fun hnone name hr => ?_,
    endsIn_runAll_sameBut⟩
  have hfound := ((hiff _ hr name).mp rfl).1
  rw [hnone] at hfound
  cases hfound

namespace Sample

/-- An evaluation that uses a name without binding it. -/
def careless : Ensemble := hosted.enroll {} 1000 {} "$x"

theorem parse_careless : Language.parse {} "$x" = .ok [.deref "x"] := by
  have hl : Token.lex {} "$x" = .ok [.action, .identifier "x"] := by
    rw [Token.lex, if_pos (by decide)]
    exact congrArg Except.ok (by decide +kernel)
  have hn : Node.parse Node.defaultMaxDepth [.action, .identifier "x"] = .ok [.deref "x"] := by
    have hx : splitName "x" = ("x", none) := by decide +kernel
    rw [Node.parse, Node.parseAt_of_closes (Nat.zero_le _) (.other id (.other id .nil)),
      Node.parseItems_action, Node.parseItems_identifier (by simp), Node.parseItems_nil, if_pos rfl,
      Node.ofReference, hx]
    rfl
  rw [Language.parse, hl]
  exact congrArg (Except.mapError EvalError.parse) hn

end Sample

theorem unbound_predictable_sample :
    Run (HasEvents Sample.address) Sample.careless ∧
      Sample.careless.evaluations Sample.address =
        some { Sample.evaluation (.talking (.fail (.unboundVariable "x"))) with text := "$x" } ∧
      Language.parse {} "$x" = .ok [.deref "x"] ∧
      Node.firstUnboundIn [] [.deref "x"] = some "x" := by
  have he : Sample.careless.evaluations Sample.address =
      some { Sample.evaluation (.talking (.fail (.unboundVariable "x"))) with text := "$x" } := by
    have hb := evaluations_enroll_self Sample.hosted {} 1000 {} "$x"
    rw [Language.evaluate, Sample.parse_careless] at hb
    exact hb
  have hr : Run (HasEvents Sample.address) Sample.hosted := by
    have h₀ : Run (HasEvents Sample.address) start := .start fun e he => (by cases he)
    have h₁ : Run (HasEvents Sample.address) Sample.created :=
      h₀.step (.edit (c := .create _ _) trivial) fun e he => (by cases he)
    exact h₁.step (.edit (c := .create _ _) trivial) fun e he => (by cases he)
  have h : Run (HasEvents Sample.address) Sample.careless :=
    hr.step (.enroll {} 1000 {} "$x") fun e hev hover => by
      rw [he] at hev
      cases hev
      exact absurd trivial hover
  exact ⟨h, he, Sample.parse_careless,
    ((unbound_predictable h he Sample.parse_careless).1 _ rfl "x").mp rfl |>.1⟩

end Ensemble

end ChatBot
