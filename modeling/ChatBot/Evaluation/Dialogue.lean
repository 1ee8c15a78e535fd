import ChatBot.Evaluation.Error

/-!
# Dialogues

An evaluation talks to the chat: it gives out a command, is given the text of the reply, and goes
on. A dialogue is that conversation seen from the evaluation's side, with everything that takes
time left to the one who answers. A reply that is a failure, or that does not come, ends it.
-/

namespace ChatBot

/-- A conversation that ends in an `α`, unless it fails. -/
inductive Dialogue (α : Type) where
  /-- The conversation is over. -/
  | done (result : α)
  /-- The conversation cannot go on. -/
  | fail (e : EvalError)
  /-- A command is given out; the conversation goes on with the text of its reply. -/
  | ask (command : String) (resume : String → Dialogue α)

namespace Dialogue

variable {α β : Type}

/-- One conversation after another. -/
def bind : Dialogue α → (α → Dialogue β) → Dialogue β
  | done a, f => f a
  | fail e, _ => fail e
  | ask command resume, f => ask command fun reply => (resume reply).bind f

instance : Monad Dialogue where
  pure := done
  bind := bind

@[simp] theorem pure_eq (a : α) : (pure a : Dialogue α) = done a := rfl

@[simp] theorem bind_eq (d : Dialogue α) (f : α → Dialogue β) : d >>= f = d.bind f := rfl

@[simp] theorem done_bind (a : α) (f : α → Dialogue β) : (done a).bind f = f a := rfl

@[simp] theorem fail_bind (e : EvalError) (f : α → Dialogue β) : (fail e).bind f = fail e := rfl

@[simp] theorem ask_bind (command : String) (resume : String → Dialogue α) (f : α → Dialogue β) :
    (ask command resume).bind f = ask command fun reply => (resume reply).bind f := rfl

theorem bind_done (d : Dialogue α) : d.bind done = d := by
  induction d with
  | done a => rfl
  | fail e => rfl
  | ask command resume ih => simp [ih]

theorem bind_bind {γ : Type} (d : Dialogue α) (f : α → Dialogue β) (g : β → Dialogue γ) :
    (d.bind f).bind g = d.bind fun a => (f a).bind g := by
  induction d with
  | done a => rfl
  | fail e => rfl
  | ask command resume ih => simp [ih]

end Dialogue

end ChatBot
