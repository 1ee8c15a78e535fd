import Mathlib.Logic.Function.Basic
import ChatBot.Json.Reader
import ChatBot.Text.Form

/-!
# Form encoding can be undone

An encoded text is made of letters that stand for themselves, plus signs and escapes, and each of
these stands for one byte.  So a reader who takes them one after the other gets the bytes of the
text back, and never starts in the middle of an escape.

* `Text.IsFormEncoded`: what encoded texts look like.
* `Text.formDecode`: the reader.
* `Text.formEncode_invertible`: what the reader makes of an encoded text.
-/

namespace ChatBot.Text

open Json (hexValue?)

/-! ### Encoded texts -/

/-- An ASCII letter or digit, or one of `_`, `.`, `-` and `~`. -/
def IsFormLetter (c : Char) : Prop := c.isAlphanum ∨ c ∈ ['_', '.', '-', '~']

/-- A hexadecimal digit in upper case. -/
def IsUpperHex (c : Char) : Prop := c.isDigit ∨ 'A' ≤ c ∧ c ≤ 'F'

instance (c : Char) : Decidable (IsFormLetter c) :=
  inferInstanceAs (Decidable (c.isAlphanum ∨ c ∈ ['_', '.', '-', '~']))

instance (c : Char) : Decidable (IsUpperHex c) :=
  inferInstanceAs (Decidable (c.isDigit ∨ 'A' ≤ c ∧ c ≤ 'F'))

/-- Letters, plus signs, and percent signs with two hexadecimal digits each. -/
inductive IsFormEncoded : List Char → Prop where
  | nil : IsFormEncoded []
  | letter {c : Char} {cs : List Char} (hc : IsFormLetter c) (h : IsFormEncoded cs) :
      IsFormEncoded (c :: cs)
  | plus {cs : List Char} (h : IsFormEncoded cs) : IsFormEncoded ('+' :: cs)
  | escape {a b : Char} {cs : List Char} (ha : IsUpperHex a) (hb : IsUpperHex b)
      (h : IsFormEncoded cs) : IsFormEncoded ('%' :: a :: b :: cs)

/-- The bytes that are read from a form-encoded text: a plus sign is a space, a percent sign with
two hexadecimal digits is the byte of this number, and every other character is itself. -/
def formDecode : List Char → List UInt8
  | [] => []
  | '+' :: cs => 32 :: formDecode cs
  | '%' :: a :: b :: cs =>
    match hexValue? a, hexValue? b with
    | some m, some n => UInt8.ofNat (16 * m + n) :: formDecode cs
    | _, _ => String.utf8EncodeChar '%' ++ formDecode (a :: b :: cs)
  | c :: cs => String.utf8EncodeChar c ++ formDecode cs

/-! ### One byte -/

variable {cs : List Char}

theorem isUpperHex_hexDigit {n : Nat} (hn : n < 16) : IsUpperHex (hexDigit n) := by
  revert n
  decide

theorem hexValue?_hexDigit {n : Nat} (hn : n < 16) : hexValue? (hexDigit n) = some n := by
  revert n
  decide

/-- The bytes that stand for themselves are letters. -/
theorem isFormLetter_of_isUnreserved {b : UInt8} (h : isUnreserved b = true) :
    b.toNat < 128 ∧ IsFormLetter (Char.ofNat b.toNat) := by
  have all : ∀ n < 256, isUnreserved (UInt8.ofNat n) = true →
      n < 128 ∧ IsFormLetter (Char.ofNat n) := by decide +kernel
  exact all b.toNat b.toNat_lt (by rwa [UInt8.ofNat_toNat])

theorem utf8EncodeChar_ofNat {b : UInt8} (hb : b.toNat < 128) :
    String.utf8EncodeChar (Char.ofNat b.toNat) = [b] := by
  have all : ∀ n < 128, String.utf8EncodeChar (Char.ofNat n) = [UInt8.ofNat n] := by decide +kernel
  rw [all b.toNat hb, UInt8.ofNat_toNat]

theorem IsFormLetter.ne {c d : Char} (hc : IsFormLetter c) (hd : ¬ IsFormLetter d) : c ≠ d := by
  rintro rfl
  exact hd hc

theorem formDecode_letter {c : Char} (hc : IsFormLetter c) :
    formDecode (c :: cs) = String.utf8EncodeChar c ++ formDecode cs := by
  rw [formDecode]
  · exact fun h => hc.ne (by decide) h
  · exact fun _ _ _ h => absurd h (hc.ne (by decide))

theorem formDecode_escape {m n : Nat} (hm : m < 16) (hn : n < 16) :
    formDecode ('%' :: hexDigit m :: hexDigit n :: cs) =
      UInt8.ofNat (16 * m + n) :: formDecode cs := by
  rw [formDecode, hexValue?_hexDigit hm, hexValue?_hexDigit hn]

/-- However a byte is written, it is read again, and reading goes on right behind it. -/
theorem formDecode_formByte (b : UInt8) : formDecode (formByte b ++ cs) = b :: formDecode cs := by
  unfold formByte
  split
  · rename_i hb
    obtain ⟨hlt, hc⟩ := isFormLetter_of_isUnreserved hb
    rw [List.singleton_append, formDecode_letter hc, utf8EncodeChar_ofNat hlt,
      List.singleton_append]
  · split
    · rename_i hb
      subst hb
      rfl
    · have hb := b.toNat_lt
      change formDecode ('%' :: hexDigit (b.toNat / 16) :: hexDigit (b.toNat % 16) :: cs) = _
      rw [formDecode_escape (by omega) (by omega), Nat.div_add_mod, UInt8.ofNat_toNat]

theorem IsFormEncoded.formByte (b : UInt8) (h : IsFormEncoded cs) :
    IsFormEncoded (formByte b ++ cs) := by
  unfold Text.formByte
  split
  · rename_i hb
    exact .letter (isFormLetter_of_isUnreserved hb).2 h
  · split
    · exact .plus h
    · have hb := b.toNat_lt
      exact .escape (isUpperHex_hexDigit (by omega)) (isUpperHex_hexDigit (by omega)) h

/-! ### All bytes of a text -/

/-- The bytes of a text in UTF-8. -/
def bytes (s : String) : List UInt8 := s.toUTF8.data.toList

theorem bytes_eq (s : String) : bytes s = s.toList.flatMap String.utf8EncodeChar := by
  rw [bytes, String.toUTF8, ← String.utf8Encode_toList, List.utf8Encode,
    List.toList_data_toByteArray]

theorem bytes_injective : Function.Injective bytes := fun _ _ h =>
  String.toByteArray_inj.mp (ByteArray.ext (Array.toList_inj.mp h))

theorem toList_formEncode (s : String) : (formEncode s).toList = (bytes s).flatMap formByte := by
  rw [formEncode, String.toList_ofList, bytes_eq]

theorem isFormEncoded_flatMap (bs : List UInt8) : IsFormEncoded (bs.flatMap formByte) := by
  induction bs with
  | nil => exact .nil
  | cons b bs ih => exact ih.formByte b

theorem formDecode_flatMap (bs : List UInt8) : formDecode (bs.flatMap formByte) = bs := by
  induction bs with
  | nil => rfl
  | cons b bs ih => rw [List.flatMap_cons, formDecode_formByte, ih]

/-- **Form encoding can be undone.**  An encoded text is made of letters, plus signs and escapes
only, and what is read from it are the bytes of the text.  So no two texts are encoded alike, and
texts can be encoded piece by piece. -/
theorem formEncode_invertible :
    (∀ s, IsFormEncoded (formEncode s).toList ∧ formDecode (formEncode s).toList = bytes s) ∧
      Function.Injective formEncode ∧
      ∀ s t, formEncode (s ++ t) = formEncode s ++ formEncode t := by
  have hdecode (s : String) : formDecode (formEncode s).toList = bytes s := by
    rw [toList_formEncode, formDecode_flatMap]
  refine ⟨fun s => ⟨?_, hdecode s⟩, fun s t h => bytes_injective ?_, fun s t => ?_⟩
  · rw [toList_formEncode]
    exact isFormEncoded_flatMap (bytes s)
  · rw [← hdecode s, ← hdecode t, h]
  · refine String.toList_inj.mp ?_
    rw [String.toList_append]
    simp only [toList_formEncode, bytes_eq, String.toList_append, List.flatMap_append]

/-- Marks of the encoding among the letters. -/
example : formEncode "a b+%é" = "a+b%2B%25%C3%A9" := by decide +kernel

end ChatBot.Text
