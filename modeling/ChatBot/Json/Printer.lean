import ChatBot.Json

/-!
# Writing JSON

The compact form of a value: no blanks, and no escapes but those that JSON asks for.
-/

namespace ChatBot.Json

/-- How a character is written inside a string. -/
def escapeChar (c : Char) : List Char :=
  if c = '\x22' then ['\\', '\x22']
  else if c = '\\' then ['\\', '\\']
  else if c = '\x08' then ['\\', 'b']
  else if c = '\t' then ['\\', 't']
  else if c = '\n' then ['\\', 'n']
  else if c = '\x0c' then ['\\', 'f']
  else if c = '\r' then ['\\', 'r']
  else if c.toNat < 32 then
    ['\\', 'u', '0', '0', Nat.digitChar (c.toNat / 16), Nat.digitChar (c.toNat % 16)]
  else [c]

/-- A string between quotation marks. What is no text is written as the empty one. -/
def renderString (s : Option String) : List Char :=
  '\x22' :: (s.getD "").toList.flatMap escapeChar ++ ['\x22']

mutual

/-- The characters of a value. -/
def renderChars : Json → List Char
  | .null => "null".toList
  | .bool true => "true".toList
  | .bool false => "false".toList
  | .number digits => digits.toList
  | .string s => renderString s
  | .array items => '[' :: renderItems items ++ [']']
  | .object members => '\x7b' :: renderMembers members ++ ['\x7d']

/-- Values with commas between them. -/
def renderItems : List Json → List Char
  | [] => []
  | [j] => renderChars j
  | j :: js => renderChars j ++ ',' :: renderItems js

/-- Keys and values with commas between them. -/
def renderMembers : List (Option String × Json) → List Char
  | [] => []
  | [(key, j)] => renderString key ++ ':' :: renderChars j
  | (key, j) :: ms => renderString key ++ ':' :: renderChars j ++ ',' :: renderMembers ms

end

/-- The compact form of a value. -/
def render (j : Json) : String := String.ofList j.renderChars

end ChatBot.Json
