import ChatBot.Text.Alphabetic
import ChatBot.Text.CaseTable
import ChatBot.Text.Cased

/-!
# Changing the case of a text

Upper and lower case of whole texts, by the full case mappings of Unicode: a letter may become
several, and a capital sigma at the end of a word becomes the final small sigma. Capitalising and
title case go letter by letter and know no final sigma.
-/

namespace ChatBot.Text

/-- What a letter becomes: its spelling in several letters, else its partner in a run, else
itself. -/
def changeCase (spellings : List (Nat × List Nat)) (runs : List CaseRun) (c : Char) : List Char :=
  match spellings.lookup c.toNat with
  | some codes => codes.map Char.ofNat
  | none => [(runs.findSome? (·.partner? c.toNat)).elim c Char.ofNat]

/-- The upper case of one letter. -/
def upperChar (c : Char) : List Char := changeCase upperSpellings upperRuns c

/-- The lower case of one letter, taken on its own. -/
def lowerChar (c : Char) : List Char := changeCase lowerSpellings lowerRuns c

/-- The upper case of a text. -/
def upper (s : String) : String := String.ofList (s.toList.flatMap upperChar)

/-- Whether the first of `cs` that matters for case is a cased letter. -/
def meetsCased (cs : List Char) : Bool :=
  match cs.dropWhile caseIgnorable.has with
  | c :: _ => cased.has c
  | [] => false

/-- The lower case of `cs`, which stands after the letters `before`, nearest first. A capital sigma
ends a word when a cased letter comes before it and none comes after it. -/
def lowerFrom (before : List Char) : List Char → List Char
  | [] => []
  | c :: cs =>
    (if c = 'Σ' then [if meetsCased before && !meetsCased cs then 'ς' else 'σ'] else lowerChar c)
      ++ lowerFrom (c :: before) cs

/-- The lower case of a text. -/
def lower (s : String) : String := String.ofList (lowerFrom [] s.toList)

/-- The first letter in upper case, all others in lower case. -/
def capitalize (s : String) : String :=
  match s.toList with
  | [] => ""
  | c :: cs => String.ofList (upperChar c ++ cs.flatMap lowerChar)

/-- Letters in lower case but for the first one of each run of letters. -/
def titleFrom (atStart : Bool) : List Char → List Char
  | [] => []
  | c :: cs =>
    if isAlphabetic c then (if atStart then upperChar c else lowerChar c) ++ titleFrom false cs
    else c :: titleFrom true cs

/-- Every run of letters with its first letter in upper case and the others in lower case. -/
def title (s : String) : String := String.ofList (titleFrom true s.toList)

end ChatBot.Text
