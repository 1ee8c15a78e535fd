/-!
# Control sequences

A terminal obeys control characters, and the sequences that an escape character starts, instead of
showing them. A text without them is what it shows. Sequences are spelled in ASCII; characters
beyond it are shown outside of them and ignored inside, except that the terminal reads bytes and so
finds the end of a string inside of such a character, too.
-/

namespace ChatBot.Text

/-- Where a terminal stands in a control sequence. -/
inductive Reception where
  /-- Outside of any. -/
  | ground
  /-- After the escape character. -/
  | escape
  /-- After the escape character and some intermediate characters. -/
  | intermediate
  /-- In a control function, which ends with a letter. -/
  | function
  /-- At the start of a device string. -/
  | device
  /-- In the parameters of a device string. -/
  | deviceParameters
  /-- In the intermediate characters of a device string. -/
  | deviceIntermediate
  /-- In the text of a string, which ends with the byte `stringEnd`. -/
  | string
  /-- In a command for the operating system, which ends with a bell. -/
  | systemCommand
  deriving DecidableEq, Repr

namespace Reception

/-- Where a terminal stands after `c`, a character of ASCII that is neither the escape character nor
one that cancels sequences. -/
def next (r : Reception) (c : Char) : Reception :=
  let isIntermediate := ' ' ≤ c && c ≤ '/'
  let isParameter := '0' ≤ c && c ≤ '?'
  let isFinal := '@' ≤ c && c ≤ '~'
  match r with
  | .ground => .ground
  | .escape =>
    if c = '[' then .function
    else if c = ']' then .systemCommand
    else if c = 'P' then .device
    else if c = 'X' || c = '^' || c = '_' then .string
    else if isParameter || isFinal then .ground
    else if isIntermediate then .intermediate
    else .escape
  | .intermediate => if isParameter || isFinal then .ground else .intermediate
  | .function => if isFinal then .ground else .function
  | .device =>
    if isFinal then .string
    else if isParameter then .deviceParameters
    else if isIntermediate then .deviceIntermediate
    else .device
  | .deviceParameters =>
    if isFinal || '<' ≤ c && isParameter then .string
    else if isIntermediate then .deviceIntermediate
    else .deviceParameters
  | .deviceIntermediate => if isParameter || isFinal then .string else .deviceIntermediate
  | .string => .string
  | .systemCommand => if c = '\x07' then .ground else .systemCommand

/-- The byte that ends strings. -/
def stringEnd : UInt8 := 0x9C

/-- Where a terminal stands after `c`, a character beyond ASCII. -/
def nextBeyond (r : Reception) (c : Char) : Reception :=
  if r = .string ∧ stringEnd ∈ String.utf8EncodeChar c then .ground else r

end Reception

/-- What a terminal shows of `cs`. -/
def shownFrom (r : Reception) : List Char → List Char
  | [] => []
  | c :: cs =>
    if c = '\x1b' then shownFrom .escape cs
    else if c = '\x18' || c = '\x1a' then shownFrom .ground cs
    else if r = .ground && ' ' ≤ c && c ≠ '\x7f' then c :: shownFrom .ground cs
    else if '\x80' ≤ c then shownFrom (r.nextBeyond c) cs
    else shownFrom (r.next c) cs

/-- What a terminal shows of a word. -/
def withoutControls (s : String) : String := String.ofList (shownFrom .ground s.toList)

end ChatBot.Text
