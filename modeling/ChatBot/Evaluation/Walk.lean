import ChatBot.Evaluation.Dialogue
import ChatBot.Scope

/-!
# Evaluating expressions

An expression is walked from left to right while a command is built from its texts, the values of
its variables and the results of its nested expressions. The command is given out where a
`suppress` asks for it, and at the end if it starts the way commands do; otherwise the text that
was built is itself the result.
-/

namespace ChatBot

/-- Whether `s` starts with `start`. -/
def startsWith (start s : String) : Bool := start.toList.isPrefixOf s.toList

/-- What becomes of a finished command: it is given out if it starts with `opening`, else it is a
result as it stands. -/
def Dialogue.ofCommand (opening command : String) : Dialogue String :=
  if startsWith opening (Text.trim command) then .ask (Text.trim command) .done
  else .done command

/-- Gives out a command and drops the reply. Without a command there is nothing to give out. -/
def Dialogue.ofSuppressed (command : String) : Dialogue Unit :=
  if Text.isBlank command then .done () else .ask (Text.trim command) fun _ => .done ()

/-- What is built so far on one level of an expression. -/
structure Progress where
  /-- The variables. -/
  scope : Scope
  /-- The command. -/
  command : String

mutual

/-- One part of an expression. -/
def Node.run (opening : String) (node : Node) (p : Progress) : Dialogue Progress :=
  match node with
  | .literal text => .done { p with command := p.command ++ text }
  | .deref name =>
    match p.scope.lookup name with
    | some value => .done { p with command := p.command ++ value }
    | none => .fail (.unboundVariable name)
  | .subtree children => do
    let result ← Node.walk opening children ⟨p.scope.child, ""⟩
    return { p with command := p.command ++ result }
  | .assign name value => do
    let result ← Node.walk opening value ⟨p.scope.child, ""⟩
    return { p with scope := p.scope.insert name result }
  | .suppress => do
    Dialogue.ofSuppressed p.command
    return { p with command := "" }

/-- The parts of an expression, one after the other. -/
def Node.walk (opening : String) (nodes : List Node) (p : Progress) : Dialogue String :=
  match nodes with
  | [] => Dialogue.ofCommand opening p.command
  | node :: rest => do
    let p ← Node.run opening node p
    Node.walk opening rest p

end

/-- What one who evaluates expressions has to know. -/
structure Language where
  /-- The marks that structure expressions. -/
  marks : Marks := {}
  /-- How deep expressions may nest. -/
  maxDepth : Nat := Node.defaultMaxDepth
  /-- How commands start. -/
  opening : String := "!"
  deriving DecidableEq, Repr

/-- The expression that a text spells. -/
def Language.parse (l : Language) (text : String) : Except EvalError (List Node) := do
  let tokens ← (Token.lex l.marks text).mapError .lex
  (Node.parse l.maxDepth tokens).mapError .parse

/-- The conversation that evaluates a text. -/
def Language.evaluate (l : Language) (text : String) : Dialogue String :=
  match l.parse text with
  | .error e => .fail e
  | .ok nodes => Node.walk l.opening nodes ⟨.empty, ""⟩

end ChatBot
