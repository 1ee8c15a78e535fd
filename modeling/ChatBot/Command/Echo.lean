import ChatBot.Arguments
import ChatBot.Command.Error
import ChatBot.Text.Case
import ChatBot.Text.Form

/-!
# The echo command

Sends its words back, if wished in another case or encoded for an address.
-/

namespace ChatBot.Echo

/-- The arguments of the command. -/
def form : Form where
  command := "echo"
  about := "Echos things"
  switches := [
    { long := "title", short := some 't'
      help := "The first character of each word will be made uppercase" },
    { long := "lower", short := some 'l', help := "Changes all letters to lowercase" },
    { long := "capitalize", short := some 'c'
      help := "Converts the first character of the text to uppercase" },
    { long := "urlencode", short := some 'u'
      help := "Encodes the text according to URL-safe conventions" },
    { long := "help", short := some 'h', help := "Shows this helpful message" },
    { long := "all-caps", synonym := some "upper", help := "Return the text in all caps" }]
  words := "WORDS"
  wordsHelp := "Words that will be echoed"

/-- The changes that the switches ask for, in the order in which they are made. -/
def changes : List (String × (String → String)) :=
  [("lower", Text.lower), ("title", Text.title), ("capitalize", Text.capitalize),
    ("all-caps", Text.upper), ("urlencode", Text.formEncode)]

/-- The reply to a text of arguments. -/
def reply (text : String) : Except CommandError String :=
  match form.read (Text.words text) with
  | .error fault => .error (.invalidArguments ("\n" ++ form.explain fault))
  | .ok args =>
    if args.has "help" then .ok form.help
    else
      let change (answer : String) (c : String × (String → String)) : String :=
        if args.has c.1 then c.2 answer else answer
      .ok (changes.foldl change (String.intercalate " " args.words))

end ChatBot.Echo
