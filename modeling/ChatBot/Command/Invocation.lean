import ChatBot.Text.Whitespace

/-!
# Invocations

A message invokes a command when it starts the way the command is called, and that is all of it or
a whitespace character follows.
-/

namespace ChatBot.Invocation

/-- What stands in `text` after `called` and one whitespace character; `none` where the text does
not invoke what is called so. -/
def rest? (called text : List Char) : Option (List Char) :=
  if called.isPrefixOf text then
    match text.drop called.length with
    | [] => some []
    | c :: rest => if Text.isSpace c then some rest else none
  else none

/-- The arguments in a text that invokes the command `name`, where commands start with `opening`. -/
def arguments? (opening name text : String) : Option String :=
  (rest? (opening.toList ++ name.toList) text.toList).map String.ofList

end ChatBot.Invocation
