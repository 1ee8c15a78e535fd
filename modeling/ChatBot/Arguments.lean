import ChatBot.Text.Controls

/-!
# Command arguments

The arguments of a chat command: switches in any order, then words. A switch has a long name, may
have a letter, and may take a value. Letters of several switches can be written together. The words
start at the first argument that is no switch, or after `--`, and reach to the end: a switch among
them is a word.
-/

namespace ChatBot

/-- The value that a switch takes. -/
structure SwitchValue where
  /-- The name of the value in usage lines. -/
  name : String
  /-- What is wrong with a text that is no such value. -/
  fault : String → Option String

/-- A switch. -/
structure Switch where
  /-- The name after two hyphens. -/
  long : String
  /-- The letter after one hyphen. -/
  short : Option Char := none
  /-- Another name after two hyphens. -/
  synonym : Option String := none
  /-- The value that the switch takes, if it takes one. -/
  value : Option SwitchValue := none
  /-- What the switch does. -/
  help : String

/-- The arguments that a command takes. -/
structure Form where
  /-- The name of the command. -/
  command : String
  /-- What the command does. -/
  about : String
  /-- The switches, in the order in which they are shown. -/
  switches : List Switch
  /-- The name of the words in usage lines. -/
  words : String
  /-- What the words are. -/
  wordsHelp : String

/-- The arguments that a command was given. -/
structure Arguments where
  /-- The switches without a value. -/
  flags : List String := []
  /-- The switches with their values. -/
  values : List (String × String) := []
  /-- The words. -/
  words : List String := []
  deriving DecidableEq, Repr

/-- What is wrong with arguments. -/
inductive ArgumentFault where
  /-- A switch is given twice. -/
  | repeated (switch : Switch)
  /-- A switch that takes no value is given one, after other switches or as the first one. -/
  | unneededValue (value : String) (switch : Switch) (afterOthers : Bool)
  /-- A switch lacks its value. -/
  | missingValue (switch : Switch)
  /-- The value of a switch is not of its kind. -/
  | invalidValue (value : String) (switch : Switch) (reason : String)

namespace Switch

/-- The switch in usage lines. -/
def describe (s : Switch) : String :=
  "--" ++ s.long ++ s.value.elim "" fun v => " <" ++ v.name ++ ">"

/-- The left column of the switch's line in a help text. -/
def column (s : Switch) : String :=
  s.short.elim "    " (fun c => "-" ++ c.toString ++ ", ") ++ s.describe

/-- The right column of the switch's line in a help text. -/
def explanation (s : Switch) : String :=
  s.help ++ s.synonym.elim "" fun name => " [alias: --" ++ name ++ "]"

/-- Whether `name` is a long name of the switch. -/
def answersTo (s : Switch) (name : String) : Bool := s.long == name || s.synonym == some name

end Switch

namespace Arguments

/-- Whether a switch was given. -/
def has (a : Arguments) (long : String) : Bool :=
  a.flags.contains long || (a.values.lookup long).isSome

/-- Whether any switch was given. -/
def isAny (a : Arguments) : Bool := !a.flags.isEmpty || !a.values.isEmpty

/-- The value of a switch. -/
def value? (a : Arguments) (long : String) : Option String := a.values.lookup long

/-- Takes down a switch without a value. -/
def addFlag (a : Arguments) (s : Switch) : Except ArgumentFault Arguments :=
  if a.has s.long then .error (.repeated s) else .ok { a with flags := a.flags ++ [s.long] }

/-- Takes down a switch with its value. -/
def addValue (a : Arguments) (s : Switch) (value : String) : Except ArgumentFault Arguments :=
  if a.has s.long then .error (.repeated s)
  else match s.value.bind (·.fault value) with
    | some reason => .error (.invalidValue value s reason)
    | none => .ok { a with values := a.values ++ [(s.long, value)] }

end Arguments

/-- A switch whose value stands in the next argument: `none` until that argument is read. -/
abbrev Awaited := Option (Switch × Option String)

namespace Form

/-- Takes down an awaited value. It counts only once the next argument is looked at. -/
def conclude (a : Arguments) : Awaited → Except ArgumentFault Arguments
  | none => .ok a
  | some (s, none) => .error (.missingValue s)
  | some (s, some value) => a.addValue s value

/-- The switch with a given letter. -/
def switchOf? (f : Form) (c : Char) : Option Switch := f.switches.find? (·.short == some c)

/-- Reads letters of switches that are written together. The letters after one that takes a value
are its value. -/
def readLetters (f : Form) (a : Arguments) (awaited : Awaited) :
    List Char → Except ArgumentFault (Arguments × Awaited)
  | [] => .ok (a, awaited)
  | c :: cs =>
    match f.switchOf? c with
    | none => .ok (a, awaited)
    | some s => do
      let a ← conclude a awaited
      if s.value.isNone then
        readLetters f (← a.addFlag s) none cs
      else if cs = [] then return (a, some (s, none))
      else return (← a.addValue s (String.ofList cs), none)

/-- Reads a switch that is written with its long name, and perhaps with a value after `=`. -/
def readLong (a : Arguments) (awaited : Awaited) (s : Switch) (attached : Option String) :
    Except ArgumentFault (Arguments × Awaited) :=
  match s.value.isSome, attached with
  | false, some value => .error (.unneededValue value s a.isAny)
  | false, none => do
    let a ← conclude a awaited
    return (← a.addFlag s, none)
  | true, some value => do
    let a ← conclude a awaited
    return (← a.addValue s value, none)
  | true, none => do
    let a ← conclude a awaited
    return (a, some (s, none))

/-- What an argument looks like. -/
inductive Shape where
  /-- The end of the switches. -/
  | separator
  /-- A switch with its long name, and what follows `=`. -/
  | long (s : Switch) (attached : Option String)
  /-- Letters of switches. -/
  | letters (cs : List Char)
  /-- Anything else. -/
  | word

/-- The name and the value of a switch written with its long name. -/
def splitLong (cs : List Char) : String × Option String :=
  let name := cs.takeWhile (· != '=')
  (String.ofList name,
    match cs.drop name.length with
    | [] => none
    | _ :: value => some (String.ofList value))

/-- The shape of an argument. Unknown names and letters make it a word. -/
def shape (f : Form) (arg : String) : Shape :=
  match arg.toList with
  | '-' :: '-' :: cs =>
    if cs = [] then .separator
    else
      let (name, attached) := splitLong cs
      match f.switches.find? (·.answersTo name) with
      | some s => .long s attached
      | none => .word
  | '-' :: c :: cs =>
    if (c :: cs).all fun d => (f.switchOf? d).isSome then .letters (c :: cs) else .word
  | _ => .word

/-- Reads arguments after the switches `a`. -/
def readFrom (f : Form) (a : Arguments) (awaited : Awaited) :
    List String → Except ArgumentFault Arguments
  | [] => conclude a awaited
  | arg :: rest =>
    match f.shape arg with
    | .separator => do
      let a ← conclude a awaited
      return { a with words := rest }
    | .long s attached => do
      let (a, awaited) ← readLong a awaited s attached
      readFrom f a awaited rest
    | .letters cs => do
      let (a, awaited) ← f.readLetters a awaited cs
      readFrom f a awaited rest
    | .word =>
      match awaited with
      | some (s, none) => readFrom f a (some (s, some arg)) rest
      | _ => do
        let a ← conclude a awaited
        return { a with words := arg :: rest }

/-- Reads the arguments of a command. -/
def read (f : Form) (args : List String) : Except ArgumentFault Arguments := f.readFrom {} none args

/-- The words in usage lines. -/
def wordsUsage (f : Form) : String := "[" ++ f.words ++ "]..."

/-- The usage line. -/
def usage (f : Form) : String := "Usage: " ++ f.command ++ " [OPTIONS] " ++ f.wordsUsage

/-- The usage line for one switch. -/
def usageOf (f : Form) (s : Switch) : String :=
  "Usage: " ++ f.command ++ " " ++ s.describe ++ " " ++ f.wordsUsage

/-- The usage line that shows everything there is to choose from. -/
def usageOfAll (f : Form) : String :=
  "Usage: " ++ f.command ++ " <"
    ++ String.intercalate "|" (f.switches.map Switch.describe ++ [f.words]) ++ ">"

/-- `s` with spaces after it, up to a width. -/
def padTo (width : Nat) (s : String) : String :=
  s ++ String.ofList (List.replicate (width - s.length) ' ')

/-- The help text. -/
def help (f : Form) : String :=
  let width := (f.switches.map (·.column.length)).foldl max 0
  let line (s : Switch) : String := "  " ++ padTo width s.column ++ "  " ++ s.explanation ++ "\n"
  f.about ++ "\n\n" ++ f.usage ++ "\n\nArguments:\n  " ++ f.wordsUsage ++ "  " ++ f.wordsHelp
    ++ "\n\nOptions:\n" ++ String.join (f.switches.map line)

/-- The wording of what is wrong with arguments, with values as a terminal shows them. -/
def explain (f : Form) : ArgumentFault → String
  | .repeated s =>
    "error: the argument '" ++ s.describe ++ "' cannot be used multiple times\n\n" ++ f.usage
      ++ "\n"
  | .unneededValue value s afterOthers =>
    "error: unexpected value '" ++ Text.withoutControls value ++ "' for '" ++ s.describe
      ++ "' found; no more were expected\n\n"
      ++ (if afterOthers then f.usageOfAll else f.usageOf s) ++ "\n"
  | .missingValue s =>
    "error: a value is required for '" ++ s.describe ++ "' but none was supplied\n"
  | .invalidValue value s reason =>
    "error: invalid value '" ++ Text.withoutControls value ++ "' for '" ++ s.describe ++ "': "
      ++ reason ++ "\n"

end Form

end ChatBot
