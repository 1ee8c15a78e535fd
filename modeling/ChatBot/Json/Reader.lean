import ChatBot.Json

/-!
# Reading JSON

The grammar of JSON texts, one function per rule. Each gives the value it read and the characters
after it. The rules for values call each other with less and less `fuel`; `Json.read?` gives more of
it than any text can use up.
-/

namespace ChatBot.Json

/-- Blanks between the parts of a JSON text. -/
def isBlank (c : Char) : Bool := c = ' ' || c = '\t' || c = '\n' || c = '\r'

/-- `cs` without the blanks at its start. -/
def skip (cs : List Char) : List Char := cs.dropWhile isBlank

/-- The value of a hexadecimal digit. -/
def hexValue? (c : Char) : Option Nat :=
  if c.isDigit then some (c.toNat - 48)
  else if 'a' ≤ c ∧ c ≤ 'f' then some (c.toNat - 87)
  else if 'A' ≤ c ∧ c ≤ 'F' then some (c.toNat - 55)
  else none

/-- Four hexadecimal digits. -/
def hexQuad? : List Char → Option (Nat × List Char)
  | a :: b :: c :: d :: rest => do
    let high ← (hexValue? a).bind fun x => (hexValue? b).map fun y => 16 * x + y
    let low ← (hexValue? c).bind fun x => (hexValue? d).map fun y => 16 * x + y
    return (256 * high + low, rest)
  | _ => none

/-- The code that a one-letter escape stands for. -/
def shortEscape? (c : Char) : Option Nat :=
  if c = '\x22' ∨ c = '\\' ∨ c = '/' then some c.toNat
  else if c = 'b' then some 8
  else if c = 'f' then some 12
  else if c = 'n' then some 10
  else if c = 'r' then some 13
  else if c = 't' then some 9
  else none

/-- The rest of a string after its opening quotation mark, as code points and unpaired halves of
surrogate pairs. -/
def codes? : Nat → List Char → Option (List Nat × List Char)
  | 0, _ => none
  | _, [] => none
  | fuel + 1, c :: cs =>
    if c = '\x22' then some ([], cs)
    else if c = '\\' then
      match cs with
      | [] => none
      | e :: rest =>
        if e = 'u' then do
          let (code, rest) ← hexQuad? rest
          let (codes, rest) ← codes? fuel rest
          return (code :: codes, rest)
        else do
          let code ← shortEscape? e
          let (codes, rest) ← codes? fuel rest
          return (code :: codes, rest)
    else if c.toNat < 32 then none
    else do
      let (codes, rest) ← codes? fuel cs
      return (c.toNat :: codes, rest)

/-- The first half of a surrogate pair. -/
def isHighHalf (n : Nat) : Bool := 0xD800 ≤ n && n < 0xDC00

/-- The second half of a surrogate pair. -/
def isLowHalf (n : Nat) : Bool := 0xDC00 ≤ n && n < 0xE000

/-- The characters of a row of codes, with surrogate pairs joined; there are none if a half of a
pair is left over. -/
def joinHalves : List Nat → Option (List Char)
  | [] => some []
  | high :: low :: rest =>
    if isHighHalf high then
      if isLowHalf low then
        (joinHalves rest).map (Char.ofNat (0x10000 + (high - 0xD800) * 0x400 + (low - 0xDC00)) :: ·)
      else none
    else if isLowHalf high then none
    else (joinHalves (low :: rest)).map (Char.ofNat high :: ·)
  | [code] => if isHighHalf code || isLowHalf code then none else some [Char.ofNat code]

/-- The rest of a string after its opening quotation mark. -/
def string? (cs : List Char) : Option (Option String × List Char) :=
  (codes? (cs.length + 1) cs).map fun p => ((joinHalves p.1).map String.ofList, p.2)

/-- One or more decimal digits. -/
def digits? (cs : List Char) : Option (List Char × List Char) :=
  match cs.takeWhile Char.isDigit with
  | [] => none
  | ds => some (ds, cs.dropWhile Char.isDigit)

/-- The digits before the point: a zero alone, or digits that start with another one. -/
def integer? (cs : List Char) : Option (List Char × List Char) :=
  match cs with
  | '0' :: rest => some (['0'], rest)
  | _ => digits? cs

/-- The point and the digits after it, if there is a point. -/
def fraction? (cs : List Char) : Option (List Char × List Char) :=
  match cs with
  | '.' :: rest => (digits? rest).map fun p => ('.' :: p.1, p.2)
  | _ => some ([], cs)

/-- The sign of an exponent, if there is one. -/
def exponentSign (cs : List Char) : List Char × List Char :=
  match cs with
  | '+' :: rest => (['+'], rest)
  | '-' :: rest => (['-'], rest)
  | _ => ([], cs)

/-- The exponent, if there is one. -/
def exponent? (cs : List Char) : Option (List Char × List Char) :=
  match cs with
  | [] => some ([], [])
  | c :: rest =>
    if c = 'e' ∨ c = 'E' then
      let (sign, rest) := exponentSign rest
      (digits? rest).map fun p => (c :: sign ++ p.1, p.2)
    else some ([], cs)

/-- The sign of a number, if it is negative. -/
def minus (cs : List Char) : List Char × List Char :=
  match cs with
  | '-' :: rest => (['-'], rest)
  | _ => ([], cs)

/-- A number. -/
def number? (cs : List Char) : Option (Json × List Char) := do
  let (sign, cs) := minus cs
  let (whole, cs) ← integer? cs
  let (part, cs) ← fraction? cs
  let (power, cs) ← exponent? cs
  return (.number (String.ofList (sign ++ whole ++ part ++ power)), cs)

/-- What is left of `cs` after `word`. -/
def after? (word : List Char) (cs : List Char) : Option (List Char) :=
  if word.isPrefixOf cs then some (cs.drop word.length) else none

/-- One of the three values that are words. -/
def word? (cs : List Char) : Option (Json × List Char) :=
  match after? "null".toList cs with
  | some rest => some (.null, rest)
  | none =>
    match after? "true".toList cs with
    | some rest => some (.bool true, rest)
    | none => (after? "false".toList cs).map fun rest => (.bool false, rest)

mutual

/-- A value, with blanks before it. -/
def readValue? (fuel : Nat) (cs : List Char) : Option (Json × List Char) :=
  match fuel with
  | 0 => none
  | fuel + 1 =>
    match skip cs with
    | [] => none
    | c :: rest =>
      if c = '\x22' then (string? rest).map fun p => (.string p.1, p.2)
      else if c = '[' then
        match skip rest with
        | ']' :: rest => some (.array [], rest)
        | rest => (readItems? fuel rest).map fun p => (.array p.1, p.2)
      else if c = '\x7b' then
        match skip rest with
        | '\x7d' :: rest => some (.object [], rest)
        | rest => (readMembers? fuel rest).map fun p => (.object p.1, p.2)
      else if c = '-' || c.isDigit then number? (c :: rest)
      else word? (c :: rest)
termination_by structural fuel

/-- The rest of an array, from an item on. -/
def readItems? (fuel : Nat) (cs : List Char) : Option (List Json × List Char) :=
  match fuel with
  | 0 => none
  | fuel + 1 => do
    let (item, rest) ← readValue? fuel cs
    match skip rest with
    | ',' :: rest =>
      let (items, rest) ← readItems? fuel rest
      return (item :: items, rest)
    | ']' :: rest => return ([item], rest)
    | _ => none
termination_by structural fuel

/-- The rest of an object, from a key on. -/
def readMembers? (fuel : Nat) (cs : List Char) : Option (List (Option String × Json) × List Char) :=
  match fuel with
  | 0 => none
  | fuel + 1 => do
    let key ← after? ['\x22'] (skip cs)
    let (key, rest) ← string? key
    let rest ← after? [':'] (skip rest)
    let (value, rest) ← readValue? fuel rest
    match skip rest with
    | ',' :: rest =>
      let (members, rest) ← readMembers? fuel rest
      return ((key, value) :: members, rest)
    | '\x7d' :: rest => return ([(key, value)], rest)
    | _ => none
termination_by structural fuel

end

/-- The value that a whole text spells. -/
def read? (text : String) : Option Json := do
  let cs := text.toList
  let (value, rest) ← readValue? (2 * cs.length + 2) cs
  if skip rest = [] then some value else none

end ChatBot.Json
