/-!
# Lines

A text is read line by line. A line feed ends a line, and a carriage return before it belongs to the
end of the line and not to the line.
-/

namespace ChatBot.Text

/-- The pieces of `cs` between line feeds; there is one more of them than of these. -/
def pieces : List Char → List (List Char)
  | [] => [[]]
  | c :: cs =>
    if c = '\n' then [] :: pieces cs
    else
      match pieces cs with
      | [] => [[c]]
      | piece :: rest => (c :: piece) :: rest

/-- `cs` without the carriage return at its end, if there is one. -/
def withoutReturn (cs : List Char) : List Char :=
  if cs.getLast? = some '\r' then cs.dropLast else cs

/-- The lines of a text, the last of which a line feed is still to end. -/
def lines (s : String) : List String :=
  (pieces s.toList).map fun cs => String.ofList (withoutReturn cs)

end ChatBot.Text
