import ChatBot.Command.Registry

/-!
# The help command

Lists the commands, or describes one of them. The name of the command may be written the way the
command is called.
-/

namespace ChatBot.Help

/-- `cs` without any copies of `start` at its start. -/
def stripAll (start cs : List Char) : List Char :=
  if _h : start ≠ [] ∧ start.isPrefixOf cs then stripAll start (cs.drop start.length) else cs
termination_by cs.length
decreasing_by
  obtain ⟨hs, hp⟩ := _h
  have := List.length_pos_iff.2 hs
  have := (List.isPrefixOf_iff_prefix.1 hp).length_le
  simp only [List.length_drop]
  omega

/-- The line for one command. -/
def describe (opening : String) (info : CommandInfo) : String :=
  opening ++ info.name
    ++ if info.description.isEmpty then "" else ": " ++ info.description

/-- The line with all commands. -/
def listing (opening : String) (infos : List CommandInfo) : String :=
  "Commands: " ++ String.intercalate ", " (infos.map fun info => opening ++ info.name)

/-- The reply to a text of arguments. -/
def reply {κ : Type} (registry : Registry κ) (opening text : String) : Except CommandError String :=
  let wanted := Text.trim text
  if wanted.isEmpty then .ok (listing opening registry.list)
  else
    let name := String.ofList (stripAll opening.toList wanted.toList)
    match registry.info? name with
    | some info => .ok (describe opening info)
    | none => .error (.failed ("No such command \"" ++ name ++ "\""))

end ChatBot.Help
