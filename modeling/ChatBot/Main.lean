import ChatBot.Console

/-!
# The program

Runs a bot on the terminal. `--config FILE` names its configuration.
-/

namespace ChatBot

/-- The path of the configuration among the arguments of the program. -/
def configPath? : List String → Option String
  | "--config" :: path :: _ => some path
  | "-c" :: path :: _ => some path
  | _ :: rest => configPath? rest
  | [] => none

/-- What is in a file, if it is there. -/
def contents? (path : String) : IO (Option String) := do
  try
    return some (← IO.FS.readFile path)
  catch _ =>
    return none

/-- Prints texts at once, each with the end of a line. -/
def print (texts : List String) : IO Unit := do
  let stdout ← IO.getStdout
  for text in texts do
    stdout.putStrLn text
  stdout.flush

/-- How long the program sleeps between two looks at its input, in milliseconds. -/
def glance : Nat := 10

/-- Passes typed lines to the bot and prints what it says, in step with the clock on the wall. So
far, `shown` texts were printed. -/
partial def converseWith (start : Nat) (shown : Nat) (c : Console) : IO Unit := do
  let stdin ← IO.getStdin
  let line ← IO.asTask stdin.getLine
  let rec waitForLine (shown : Nat) (c : Console) : IO (Option String × Nat × Console) := do
    let elapsed := (← IO.monoMsNow) - start
    let c := c.advance (elapsed - c.stage.now)
    print (c.printed.drop shown)
    let shown := c.printed.length
    if ← IO.hasFinished line then
      let text ← IO.ofExcept line.get
      return (if text.isEmpty then none else some text, shown, c)
    else
      IO.sleep glance.toUInt32
      waitForLine shown c
  match ← waitForLine shown c with
  | (none, shown, c) => print (c.finish.printed.drop shown)
  | (some text, shown, c) =>
    let cs := text.toList
    let cs := if cs.getLast? = some '\n' then cs.dropLast else cs
    converseWith start shown (c.type (String.ofList cs))

end ChatBot

open ChatBot in
/-- Runs a bot on the terminal. -/
def main (args : List String) : IO UInt32 := do
  let file ← match configPath? args with
    | none => pure none
    | some path => some <$> contents? path
  match Console.start file with
  | .ok c =>
    converseWith (← IO.monoMsNow) 0 c
    return 0
  | .error e =>
    (← IO.getStderr).putStrLn e.complaint
    return 1
