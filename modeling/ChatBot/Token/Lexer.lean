import ChatBot.Token

/-!
# Reading tokens

Reading goes in two steps. `glyphs` decides for each character whether it is a letter or a mark,
which is all that escapes are about; `group` joins letters to texts. A text is dropped where it is
blank, but for one place: between a closing bracket and the action of the next nested expression
it is kept, even when it is empty, so that two calls in a row never touch.
-/

namespace ChatBot

/-- Why a text has no tokens. -/
inductive LexError where
  /-- Two marks are the same, or one is whitespace. -/
  | ambiguousMarks (marks : Marks)
  deriving DecidableEq, Repr

/-- The wording of a failure to read tokens. -/
def LexError.message : LexError → String
  | .ambiguousMarks marks =>
    "Structural characters must be distinct and non-whitespace, got "
      ++ Text.quoted (String.ofList marks.toList)

/-- A character of an expression once its escapes are resolved. -/
inductive Glyph where
  /-- Part of a text. -/
  | letter (c : Char)
  /-- A mark, as the token it stands for. -/
  | mark (t : Token)
  deriving DecidableEq, Repr

namespace Glyph

/-- The character `c` where it is not escaped. -/
def ofChar (m : Marks) (c : Char) : Glyph :=
  match m.token? c with
  | some t => .mark t
  | none => .letter c

/-- The glyphs of a text; `escaped` says that an escape stands before it. An escape at the very
end has nothing to act on and is dropped. -/
def ofChars (m : Marks) (escaped : Bool) : List Char → List Glyph
  | [] => []
  | c :: cs =>
    if escaped then .letter c :: ofChars m false cs
    else if c = m.escape then ofChars m true cs
    else ofChar m c :: ofChars m false cs

end Glyph

namespace Token

/-- Whether a text `word` is kept between the token `last` and the mark `next`. -/
def keepsText (last : Option Token) (word : List Char) (next : Token) : Bool :=
  !word.all Text.isSpace || (next == .action && last == some .rightBracket)

/-- The tokens of a row of glyphs, after the token `last` and the letters `word`. -/
def group (last : Option Token) (word : List Char) : List Glyph → List Token
  | [] => if word.all Text.isSpace then [] else [.identifier (String.ofList word)]
  | .letter c :: gs => group last (word ++ [c]) gs
  | .mark t :: gs =>
    if keepsText last word t then .identifier (String.ofList word) :: t :: group (some t) [] gs
    else t :: group (some t) [] gs

/-- The tokens of a text. Runs of whitespace count as one space. -/
def lex (m : Marks) (text : String) : Except LexError (List Token) :=
  if m.isConsistent then
    .ok (group none [] (Glyph.ofChars m false (Text.collapse text.toList)))
  else .error (.ambiguousMarks m)

end Token

end ChatBot
