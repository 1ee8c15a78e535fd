/-!
# Form encoding

The encoding of texts in addresses and forms: unreserved characters stand for themselves, a space
becomes a plus sign, and every other byte of the UTF-8 text is a percent sign with two hexadecimal
digits.
-/

namespace ChatBot.Text

/-- Bytes that stand for themselves: ASCII letters and digits, `_`, `.`, `-` and `~`. -/
def isUnreserved (b : UInt8) : Bool :=
  ('A'.toUInt8 ≤ b && b ≤ 'Z'.toUInt8) || ('a'.toUInt8 ≤ b && b ≤ 'z'.toUInt8)
    || ('0'.toUInt8 ≤ b && b ≤ '9'.toUInt8)
    || b == '_'.toUInt8 || b == '.'.toUInt8 || b == '-'.toUInt8 || b == '~'.toUInt8

/-- A hexadecimal digit in upper case. -/
def hexDigit (n : Nat) : Char := if n < 10 then Char.ofNat (48 + n) else Char.ofNat (55 + n)

/-- How one byte is written. -/
def formByte (b : UInt8) : List Char :=
  if isUnreserved b then [Char.ofNat b.toNat]
  else if b = 32 then ['+']
  else ['%', hexDigit (b.toNat / 16), hexDigit (b.toNat % 16)]

/-- The form encoding of a text, byte by byte. -/
def formEncode (s : String) : String :=
  String.ofList ((s.toList.flatMap String.utf8EncodeChar).flatMap formByte)

end ChatBot.Text
