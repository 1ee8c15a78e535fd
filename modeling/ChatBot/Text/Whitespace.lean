import ChatBot.Text.CharSet

/-!
# Whitespace

What counts as whitespace everywhere in the bot (the Unicode property `White_Space`), and the four
things done with it: trimming, asking whether a text is blank, collapsing runs to one space, and
cutting a text into words.
-/

namespace ChatBot.Text

/-- The Unicode property `White_Space`. -/
def whiteSpace : CharSet where
  ranges := [
    (0x9, 0xD), (0x20, 0x20), (0x85, 0x85), (0xA0, 0xA0), (0x1680, 0x1680), (0x2000, 0x200A),
    (0x2028, 0x2029), (0x202F, 0x202F), (0x205F, 0x205F), (0x3000, 0x3000)]

/-- Whether `c` is whitespace. -/
def isSpace (c : Char) : Bool := whiteSpace.has c

/-- `cs` without the whitespace at its two ends. -/
def trimChars (cs : List Char) : List Char :=
  ((cs.dropWhile isSpace).reverse.dropWhile isSpace).reverse

/-- `s` without the whitespace at its two ends. -/
def trim (s : String) : String := String.ofList (trimChars s.toList)

/-- Whether `s` holds nothing but whitespace. -/
def isBlank (s : String) : Bool := s.toList.all isSpace

/-- `cs` with every run of whitespace turned into one space; `inRun` says that a run is going on
and its space is already written. -/
def collapseFrom (inRun : Bool) : List Char → List Char
  | [] => []
  | c :: cs =>
    if isSpace c then
      if inRun then collapseFrom true cs else ' ' :: collapseFrom true cs
    else c :: collapseFrom false cs

/-- `cs` with every run of whitespace turned into one space. -/
def collapse (cs : List Char) : List Char := collapseFrom false cs

/-- The words of `cs`, after the letters of `word` that were read of the first one. -/
def wordsFrom (word : List Char) : List Char → List (List Char)
  | [] => if word = [] then [] else [word]
  | c :: cs =>
    if isSpace c then
      if word = [] then wordsFrom [] cs else word :: wordsFrom [] cs
    else wordsFrom (word ++ [c]) cs

/-- The longest runs of `s` without whitespace, in order. -/
def words (s : String) : List String := (wordsFrom [] s.toList).map String.ofList

end ChatBot.Text
