import ChatBot.Arguments
import ChatBot.Command.Error
import ChatBot.Json

/-!
# The arguments of the eval command

What a text of arguments asks the eval command for: a help text, or an expression to evaluate, if
wished within another time limit.
-/

namespace ChatBot.Eval

/-- What is wrong with a text that should be a natural number below `2 ^ 64`, reading on after the
number `n`. The first thing that goes wrong counts. -/
def countFaultFrom (n : Nat) : List Char → Option String
  | [] => none
  | c :: cs =>
    if !c.isDigit then some "invalid digit found in string"
    else if Json.wordSize ≤ 10 * n + (c.toNat - 48) then
      some "number too large to fit in target type"
    else countFaultFrom (10 * n + (c.toNat - 48)) cs

/-- What is wrong with a text that should be a natural number below `2 ^ 64`. A plus sign may stand
before it. -/
def countFault (text : String) : Option String :=
  match text.toList with
  | [] => some "cannot parse integer from empty string"
  | ['+'] => some "invalid digit found in string"
  | '+' :: cs => countFaultFrom 0 cs
  | cs => countFaultFrom 0 cs

/-- The natural number that a text without fault spells. -/
def count (text : String) : Nat :=
  let cs := text.toList
  (Json.digitsValue 0 (if cs.head? = some '+' then cs.tail else cs)).getD 0

/-- The arguments of the command. -/
def form : Form where
  command := "eval"
  about := "Evaluate expressions."
  switches := [
    { long := "help", short := some 'h', help := "Show this help message" },
    { long := "time-limit", short := some 't', value := some ⟨"TIME_LIMIT", countFault⟩
      help := "Max amount of seconds that the expression will be evaluated under" }]
  words := "EXPRESSION"
  wordsHelp := "The expression that is to be evaluated"

/-- What the command is asked for. -/
inductive Request where
  /-- A text to show. -/
  | show (text : String)
  /-- An expression to evaluate, within a number of seconds. -/
  | evaluate (expression : String) (seconds : Option Nat)
  deriving DecidableEq, Repr

/-- What a text of arguments asks for. -/
def request (text : String) : Except CommandError Request :=
  match form.read (Text.words text) with
  | .error fault => .error (.invalidArguments ("\n" ++ form.explain fault))
  | .ok args =>
    if args.has "help" then .ok (.show form.help)
    else if args.words.isEmpty then .ok (.show form.usage)
    else .ok (.evaluate (String.intercalate " " args.words) ((args.value? "time-limit").map count))

end ChatBot.Eval
