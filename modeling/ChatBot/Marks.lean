import ChatBot.Text.Quoted
import ChatBot.Text.Whitespace

/-!
# The marks of the expression language

Six characters structure an expression; all others are text. Which six they are is a choice of the
bot's owner, and a choice is usable when no two are the same and none is whitespace.
-/

namespace ChatBot

/-- The six characters that structure an expression. -/
structure Marks where
  /-- Runs the command so far and drops its reply. -/
  suppress : Char := ';'
  /-- Opens a nested expression. -/
  leftBracket : Char := '('
  /-- Closes a nested expression. -/
  rightBracket : Char := ')'
  /-- Stands before a nested expression or the name of a variable. -/
  action : Char := '$'
  /-- Stands between the name of a variable and its value. -/
  assign : Char := '='
  /-- Makes the next character plain text. -/
  escape : Char := '\\'
  deriving DecidableEq, Repr, Inhabited

namespace Marks

/-- The six marks in their fixed order. -/
def toList (m : Marks) : List Char :=
  [m.suppress, m.leftBracket, m.rightBracket, m.action, m.assign, m.escape]

/-- A choice of marks is consistent when they differ from each other and none is whitespace. -/
def isConsistent (m : Marks) : Bool :=
  m.toList.all (!Text.isSpace ·) && decide m.toList.Nodup

/-- The marks with their names, as an error message shows them. -/
def describe (m : Marks) : String :=
  "Syntax \x7b suppress: " ++ Text.quotedChar m.suppress
    ++ ", left_bracket: " ++ Text.quotedChar m.leftBracket
    ++ ", right_bracket: " ++ Text.quotedChar m.rightBracket
    ++ ", action: " ++ Text.quotedChar m.action
    ++ ", assign: " ++ Text.quotedChar m.assign
    ++ ", escape: " ++ Text.quotedChar m.escape ++ " \x7d"

end Marks

end ChatBot
