import ChatBot.Marks

/-!
# Tokens

An expression is a sequence of texts and marks.
-/

namespace ChatBot

/-- A piece of an expression. -/
inductive Token where
  /-- Text between marks, spacing kept. -/
  | identifier (text : String)
  /-- Opens a nested expression. -/
  | leftBracket
  /-- Closes a nested expression. -/
  | rightBracket
  /-- Announces a nested expression or a variable. -/
  | action
  /-- Binds a name. -/
  | assign
  /-- Ends a command whose reply is dropped. -/
  | suppress
  deriving DecidableEq, Repr, Inhabited

/-- The name of a token in error messages. -/
def Token.describe : Token → String
  | .identifier text => "identifier(" ++ Text.quoted text ++ ")"
  | .leftBracket => "left bracket"
  | .rightBracket => "right bracket"
  | .action => "action"
  | .assign => "assign"
  | .suppress => "suppress"

/-- The token that `c` stands for where it is not escaped. The escape itself stands for none. -/
def Marks.token? (m : Marks) (c : Char) : Option Token :=
  if c = m.suppress then some .suppress
  else if c = m.leftBracket then some .leftBracket
  else if c = m.rightBracket then some .rightBracket
  else if c = m.action then some .action
  else if c = m.assign then some .assign
  else none

end ChatBot
