/-!
# JSON values

The values that configurations are written in. Numbers keep the digits they are written with, and a
string that pairs its surrogates wrongly is kept as one that is no text: what nobody asks for is
never judged.
-/

namespace ChatBot

/-- A JSON value. -/
inductive Json where
  /-- Nothing. -/
  | null
  /-- A truth value. -/
  | bool (b : Bool)
  /-- A number, as it is written. -/
  | number (digits : String)
  /-- A string; `none` where its escapes spell no text. -/
  | string (s : Option String)
  /-- A list of values. -/
  | array (items : List Json)
  /-- Values under keys, in the order in which they are written. -/
  | object (members : List (Option String × Json))
  deriving Repr, Inhabited

namespace Json

/-- A text as a value. -/
def ofText (s : String) : Json := .string (some s)

/-- A natural number as a value. -/
def ofNat (n : Nat) : Json := .number (toString n)

/-- Values under keys. -/
def ofMembers (members : List (String × Json)) : Json :=
  .object (members.map fun m => (some m.1, m.2))

/-- The text of a string that is one. -/
def text? : Json → Option String
  | .string s => s
  | _ => none

/-- The character of a string that is just one. -/
def char? (j : Json) : Option Char :=
  match j.text?.map String.toList with
  | some [c] => some c
  | _ => none

/-- How many numbers a 64-bit word can hold. -/
def wordSize : Nat := Nat.pow 2 64

/-- The value of a row of decimal digits, continuing the number `n`. -/
def digitsValue (n : Nat) : List Char → Option Nat
  | [] => some n
  | c :: cs => if c.isDigit then digitsValue (10 * n + (c.toNat - 48)) cs else none

/-- The natural number below `2 ^ 64` that is written with digits alone. -/
def natural? : Json → Option Nat
  | .number digits => (digitsValue 0 digits.toList).filter (· < wordSize)
  | _ => none

/-- The values under the keys `names` in an object: every key has to be a text, keys of other names
are passed over, and none of `names` may come twice. -/
def members? (names : List String) (members : List (Option String × Json)) :
    Option (List (Option Json)) :=
  if members.any fun m => m.1.isNone then none
  else names.mapM fun name =>
    match members.filter fun m => m.1 == some name with
    | [] => some none
    | [m] => some (some m.2)
    | _ => none

/-- The fields `names` of a record. A record is an object, or an array of its fields in their order,
of which the last ones may be missing. -/
def fields? (names : List String) : Json → Option (List (Option Json))
  | .object members => members? names members
  | .array items =>
    if items.length ≤ names.length then
      some (items.map some ++ List.replicate (names.length - items.length) none)
    else none
  | _ => none

/-- A field that may be missing. -/
def fieldOr {α : Type} (default : α) (read : Json → Option α) : Option Json → Option α
  | none => some default
  | some j => read j

end Json

end ChatBot
