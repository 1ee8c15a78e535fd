import Mathlib.Logic.Function.Basic
import ChatBot.Bot.RoundTrip

/-!
# Evaluating with one map

What an expression means, told without scopes, listeners and inboxes.  The variables are one map
from names to values, of which nested expressions get a copy; the commands are written down in the
order in which they are published, and the n-th one gets the n-th of some given answers.

* `Plain.evaluate` is this interpreter.
* `perform_evaluate`: a dialogue whose commands are answered so is a run of it.
-/

namespace ChatBot

/-- How a command is answered. -/
inductive Answer where
  /-- With a text. -/
  | text (said : String)
  /-- With a failure. -/
  | error (reason : String)
  /-- Not in time. -/
  | late
  deriving DecidableEq

/-- The answer that a reply gives. -/
def Answer.ofReply (reply : Message) : Answer :=
  match reply.body with
  | .text said => .text said
  | .error reason => .error reason

/-- Something that publishes commands, written down in order, and has a result or fails. -/
abbrev Plain := ExceptT EvalError (StateM (List String))

namespace Plain

/-- The result, and all commands published so far. -/
def outcome {α : Type} (x : Plain α) (published : List String) : Except EvalError α × List String :=
  (x.run).run published

/-- Publishes a command, and goes on with the answer. -/
def ask (answers : Nat → Answer) (command : String) : Plain String := do
  let published ← get
  set (published ++ [command])
  match answers published.length with
  | .text said => return said
  | .error reason => throw (.commandFailed command reason)
  | .late => throw (.timeout command)

/-- One map from names to values. -/
abbrev Variables := String → Option String

mutual

/-- One part of an expression changes the map and the text that is built. -/
def node (answers : Nat → Answer) (opening : String) (n : Node) (vars : Variables)
    (built : String) : Plain (Variables × String) :=
  match n with
  | .literal text => return (vars, built ++ text)
  | .deref name =>
    match vars name with
    | some value => return (vars, built ++ value)
    | none => throw (.unboundVariable name)
  | .subtree children => do
    let result ← walk answers opening children vars ""
    return (vars, built ++ result)
  | .assign name value => do
    let result ← walk answers opening value vars ""
    return (Function.update vars name (some result), built)
  | .suppress => do
    if !Text.isBlank built then
      let _ ← ask answers (Text.trim built)
    return (vars, "")

/-- The parts of an expression from left to right. -/
def walk (answers : Nat → Answer) (opening : String) (nodes : List Node) (vars : Variables)
    (built : String) : Plain String :=
  match nodes with
  | [] =>
    if startsWith opening (Text.trim built) then ask answers (Text.trim built)
    else return built
  | n :: rest => do
    let (vars, built) ← node answers opening n vars built
    walk answers opening rest vars built

end

/-- An expression, from its text.  Where the text is no expression, nothing is published. -/
def evaluate (answers : Nat → Answer) (l : Language) (text : String) : Plain String :=
  match l.parse text with
  | .error e => throw e
  | .ok nodes => walk answers l.opening nodes (fun _ => none) ""

variable {α β : Type} {answers : Nat → Answer}

@[simp] theorem throw_bind (e : EvalError) (f : α → Plain β) :
    ((throw e : Plain α) >>= f) = throw e := rfl

/-- What comes of a command depends on the answer alone. -/
theorem outcome_ask_bind (command : String) (f : String → Plain α) (published : List String) :
    outcome (ask answers command >>= f) published =
      match answers published.length with
      | .text said => outcome (f said) (published ++ [command])
      | .error reason => (.error (.commandFailed command reason), published ++ [command])
      | .late => (.error (.timeout command), published ++ [command]) := by
  change outcome ((match answers published.length with
    | .text said => (pure said : Plain String)
    | .error reason => throw (.commandFailed command reason)
    | .late => throw (.timeout command)) >>= f) (published ++ [command]) = _
  cases answers published.length with
  | text said => rfl
  | error reason => rfl
  | late => rfl

end Plain

/-! ### Dialogues with given answers -/

namespace Dialogue

variable {α β : Type} {answers : Nat → Answer}

/-- The conversation whose n-th command gets the n-th answer. -/
def perform (answers : Nat → Answer) : Dialogue α → Plain α
  | done result => pure result
  | fail e => throw e
  | ask command resume => Plain.ask answers command >>= fun said => perform answers (resume said)

theorem perform_bind (d : Dialogue α) (f : α → Dialogue β) :
    (d.bind f).perform answers = d.perform answers >>= fun a => (f a).perform answers := by
  induction d with
  | done a => simp [perform]
  | fail e => rfl
  | ask command resume ih => simp [perform, ih]

/-- Commands that are published stay published. -/
theorem published_perform (d : Dialogue α) (published : List String) :
    published <+: (Plain.outcome (d.perform answers) published).2 := by
  induction d generalizing published with
  | done a => exact List.prefix_rfl
  | fail e => exact List.prefix_rfl
  | ask command resume ih =>
      have hp : published <+: published ++ [command] := List.prefix_append _ _
      rw [perform, Plain.outcome_ask_bind]
      cases answers published.length with
      | text said => exact hp.trans (ih said _)
      | error reason => exact hp
      | late => exact hp

end Dialogue

/-! ### Scopes as maps -/

/-- The variables of a level and of those around it. -/
def Scope.flat (s : Scope) : Plain.Variables := fun name => s.lookup name

@[simp] theorem Scope.flat_child (s : Scope) : s.child.flat = s.flat := rfl

@[simp] theorem Scope.flat_insert (s : Scope) (name value : String) :
    (s.insert name value).flat = Function.update s.flat name (some value) := by
  funext other
  by_cases h : other = name
  · subst h
    cases s <;> simp [flat, insert, lookup]
  · have hb : (other == name) = false := by simpa using h
    cases s <;> simp [flat, insert, lookup, List.lookup_cons, h, hb]

/-- What is built so far, with one map. -/
def Progress.flat (p : Progress) : Plain.Variables × String := (p.scope.flat, p.command)

mutual

/-- One part of an expression is evaluated as with one map. -/
theorem perform_run (answers : Nat → Answer) (opening : String) :
    ∀ (n : Node) (p : Progress), Progress.flat <$> (Node.run opening n p).perform answers =
      Plain.node answers opening n p.scope.flat p.command
  | .literal text, p => by
      rw [Node.run, Plain.node]
      rfl
  | .deref name, p => by
      rw [Node.run, Plain.node]
      change _ = match p.scope.lookup name with
        | some value => _
        | none => _
      cases p.scope.lookup name with
      | none => rfl
      | some value => rfl
  | .subtree children, p => by
      have ih := perform_walk answers opening children ⟨p.scope.child, ""⟩
      rw [Node.run, Plain.node, Dialogue.bind_eq, Dialogue.perform_bind, ih]
      -- the level of the children is dropped, and with it what they have bound
      simp [Dialogue.perform, Progress.flat]
  | .assign name value, p => by
      have ih := perform_walk answers opening value ⟨p.scope.child, ""⟩
      rw [Node.run, Plain.node, Dialogue.bind_eq, Dialogue.perform_bind, ih]
      simp [Dialogue.perform, Progress.flat]
  | .suppress, p => by
      rw [Node.run, Plain.node, Dialogue.bind_eq, Dialogue.perform_bind, Dialogue.ofSuppressed]
      cases Text.isBlank p.command with
      | true => simp [Dialogue.perform, Progress.flat]
      | false => simp [Dialogue.perform, Progress.flat]

/-- So are several parts, the result being the same. -/
theorem perform_walk (answers : Nat → Answer) (opening : String) :
    ∀ (nodes : List Node) (p : Progress), (Node.walk opening nodes p).perform answers =
      Plain.walk answers opening nodes p.scope.flat p.command
  | [], p => by
      rw [Node.walk, Plain.walk, Dialogue.ofCommand]
      split
      · simp [Dialogue.perform]
      · rfl
  | n :: rest, p => by
      have ih := perform_walk answers opening rest
      rw [Node.walk, Plain.walk, Dialogue.bind_eq, Dialogue.perform_bind,
        ← perform_run answers opening n p]
      simp [ih, Progress.flat]

end

/-- An evaluation whose commands get the given answers is one with one map. -/
theorem perform_evaluate (answers : Nat → Answer) (l : Language) (text : String) :
    (l.evaluate text).perform answers = Plain.evaluate answers l text := by
  rw [Language.evaluate, Plain.evaluate]
  cases l.parse text with
  | error e => rfl
  | ok nodes => exact perform_walk answers l.opening nodes ⟨.empty, ""⟩

end ChatBot
