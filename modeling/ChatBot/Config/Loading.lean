import ChatBot.Config
import ChatBot.Json.Printer
import ChatBot.Json.Reader

/-!
# Loading and saving configurations

Configurations are JSON records in which every field may be missing. `Config.ofJson?` reads what
`Config.toJson` writes.
-/

namespace ChatBot

/-- A span in milliseconds as a value. Only as much of it is written as a 64-bit word can hold. -/
def Json.ofMillis (span : Nat) : Json := .ofNat (span % wordSize)

namespace Marks

/-- The fields of the record, in their order. -/
def fieldNames : List String :=
  ["suppress", "left_bracket", "right_bracket", "action", "assign", "escape"]

/-- The marks in a record. -/
def ofJson? (j : Json) : Option Marks := do
  let [suppress, leftBracket, rightBracket, action, assign, escape] ← j.fields? fieldNames | none
  let default : Marks := {}
  return {
    suppress := ← Json.fieldOr default.suppress Json.char? suppress
    leftBracket := ← Json.fieldOr default.leftBracket Json.char? leftBracket
    rightBracket := ← Json.fieldOr default.rightBracket Json.char? rightBracket
    action := ← Json.fieldOr default.action Json.char? action
    assign := ← Json.fieldOr default.assign Json.char? assign
    escape := ← Json.fieldOr default.escape Json.char? escape }

/-- The record of the marks. -/
def toJson (m : Marks) : Json :=
  Json.ofMembers (fieldNames.zip (m.toList.map fun c => Json.ofText c.toString))

end Marks

namespace EvalConfig

/-- The fields of the record, in their order. -/
def fieldNames : List String := ["time_limit", "max_depth", "syntax"]

/-- The limits and marks in a record. -/
def ofJson? (j : Json) : Option EvalConfig := do
  let [timeLimit, maxDepth, marks] ← j.fields? fieldNames | none
  let default : EvalConfig := {}
  return {
    timeLimit := ← Json.fieldOr default.timeLimit Json.natural? timeLimit
    maxDepth := ← Json.fieldOr default.maxDepth Json.natural? maxDepth
    marks := ← Json.fieldOr default.marks Marks.ofJson? marks }

/-- The record of the limits and marks. -/
def toJson (c : EvalConfig) : Json :=
  Json.ofMembers (fieldNames.zip [.ofMillis c.timeLimit, .ofNat c.maxDepth, c.marks.toJson])

end EvalConfig

namespace Config

/-- The fields of the record, in their order. -/
def fieldNames : List String :=
  ["nick", "command_prefix", "max_tasks", "shutdown_timeout", "tick_interval", "eval"]

/-- The configuration in a record. -/
def ofJson? (j : Json) : Option Config := do
  let [nick, opening, maxTasks, shutdownTimeout, tickInterval, eval] ← j.fields? fieldNames | none
  let default : Config := {}
  return {
    nick := ← Json.fieldOr default.nick Json.text? nick
    opening := ← Json.fieldOr default.opening Json.text? opening
    maxTasks := ← Json.fieldOr default.maxTasks Json.natural? maxTasks
    shutdownTimeout := ← Json.fieldOr default.shutdownTimeout Json.natural? shutdownTimeout
    tickInterval := ← Json.fieldOr default.tickInterval Json.natural? tickInterval
    eval := ← Json.fieldOr default.eval EvalConfig.ofJson? eval }

/-- The record of a configuration. -/
def toJson (c : Config) : Json :=
  Json.ofMembers (fieldNames.zip
    [.ofText c.nick, .ofText c.opening, .ofNat c.maxTasks, .ofMillis c.shutdownTimeout,
      .ofMillis c.tickInterval, c.eval.toJson])

/-- The configuration that a text spells. -/
def ofText (text : String) : Except Error Config :=
  match (Json.read? text).bind ofJson? with
  | some config => .ok config
  | none => .error (.config "Failed to parse config")

/-- The configuration that a file holds; `none` is a file that is not there. A configuration from
a file has to be usable. -/
def ofFile (contents : Option String) : Except Error Config :=
  match contents with
  | none => .error (.config "Failed to open config file: No such file or directory (os error 2)")
  | some text =>
    match (Json.read? text).bind ofJson? with
    | none => .error (.config "Failed to parse config file")
    | some config => config.validate.map fun _ => config

end Config

/-- The marks that a text spells. -/
def Marks.ofText (text : String) : Except Error Marks :=
  match (Json.read? text).bind ofJson? with
  | some marks => .ok marks
  | none => .error (.config "Failed to parse config")

end ChatBot
