import ChatBot.Text.Printable

/-!
# Quoted text

Texts and characters as error messages show them: between quotation marks, with a backslash before
what would be misread and the code point in place of what cannot be seen.
-/

namespace ChatBot.Text

/-- The code point of `c` in lower-case hexadecimal, as `\u\x7b…\x7d` writes it. -/
def codePointEscape (c : Char) : List Char :=
  ['\\', 'u', '\x7b'] ++ Nat.toDigits 16 c.toNat ++ ['\x7d']

/-- How `c` is written between two `mark`s. -/
def escapeChar (mark c : Char) : List Char :=
  if c = '\x00' then ['\\', '0']
  else if c = '\t' then ['\\', 't']
  else if c = '\r' then ['\\', 'r']
  else if c = '\n' then ['\\', 'n']
  else if c = '\\' ∨ c = mark then ['\\', c]
  else if isShownAlone c then [c]
  else codePointEscape c

/-- The double quotation mark, which stands around texts. -/
def textMark : Char := '\x22'

/-- The single quotation mark, which stands around characters. -/
def charMark : Char := '\x27'

/-- A text between double quotation marks. -/
def quoted (s : String) : String :=
  String.ofList (textMark :: s.toList.flatMap (escapeChar textMark) ++ [textMark])

/-- A character between single quotation marks. -/
def quotedChar (c : Char) : String :=
  String.ofList (charMark :: escapeChar charMark c ++ [charMark])

/-- A list of quoted texts between brackets. -/
def quotedList (texts : List String) : String :=
  "[" ++ String.intercalate ", " (texts.map quoted) ++ "]"

end ChatBot.Text
