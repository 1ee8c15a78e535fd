import Mathlib.Data.List.Basic
import Mathlib.Data.List.TakeWhile
import ChatBot.Json.Printer
import ChatBot.Json.Reader

/-!
# Strings and numbers are read as they are written

* `Json.string?_renderString`: a text is read back from its string.
* `Json.number?_append`: a number is read up to where it ends, and a natural number is one
  (`Json.isNumeral_toString`), with the value that was written (`Json.natural?_ofNat`).
-/

namespace ChatBot.Json

/-! ### Natural numbers -/

theorem toList_toString (n : Nat) : (toString n).toList = Nat.toDigits 10 n := by
  rw [Nat.toString_eq_repr, Nat.repr_eq_ofList_toDigits, String.toList_ofList]

theorem isDigit_of_mem_toDigits {n : Nat} {c : Char} (h : c ∈ Nat.toDigits 10 n) :
    c.isDigit = true := Nat.isDigit_of_mem_toDigits (by decide) (by decide) h

theorem digitsValue_append (n : Nat) (cs ds : List Char) :
    digitsValue n (cs ++ ds) = (digitsValue n cs).bind fun n => digitsValue n ds := by
  induction cs generalizing n with
  | nil => rfl
  | cons c cs ih =>
      rw [List.cons_append, digitsValue, digitsValue]
      split
      · exact ih _
      · rfl

theorem digitsValue_digitChar (n : Nat) {d : Nat} (hd : d < 10) :
    digitsValue n [d.digitChar] = some (10 * n + d) := by
  have hdigit : d.digitChar.isDigit = true := by rw [Nat.isDigit_digitChar, decide_eq_true hd]
  rw [digitsValue, if_pos hdigit, Nat.toNat_digitChar_of_lt_ten hd, Nat.add_sub_cancel_left,
    digitsValue]

/-- The digits of a number have its value. -/
theorem digitsValue_toDigits (n : Nat) : digitsValue 0 (Nat.toDigits 10 n) = some n := by
  induction n using Nat.strongRecOn with
  | ind n ih =>
      rcases Nat.lt_or_ge n 10 with hlt | hge
      · rw [Nat.toDigits_of_lt_base hlt, digitsValue_digitChar 0 hlt, Nat.mul_zero, Nat.zero_add]
      · rw [Nat.toDigits_of_base_le (by decide) hge, digitsValue_append, ih (n / 10) (by omega),
          Option.bind_some, digitsValue_digitChar _ (Nat.mod_lt n (by decide)), Nat.div_add_mod]

/-- A number that fits into a word is read as it is written. -/
theorem natural?_ofNat {n : Nat} (hn : n < wordSize) : (ofNat n).natural? = some n := by
  rw [ofNat, natural?, toList_toString, digitsValue_toDigits, Option.filter_some,
    if_pos (decide_eq_true hn)]

/-- No other number than zero starts with a zero. -/
theorem head?_toDigits {n : Nat} (hn : n ≠ 0) : (Nat.toDigits 10 n).head? ≠ some '0' := by
  induction n using Nat.strongRecOn with
  | ind n ih =>
      rcases Nat.lt_or_ge n 10 with hlt | hge
      · rw [Nat.toDigits_of_lt_base hlt, List.head?_cons]
        intro hzero
        have hval := congrArg Char.toNat (Option.some.inj hzero)
        rw [Nat.toNat_digitChar_of_lt_ten hlt] at hval
        exact hn (Nat.add_left_cancel hval)
      · rw [Nat.toDigits_of_base_le (by decide) hge,
          List.head?_append_of_ne_nil _ Nat.toDigits_ne_nil]
        exact ih (n / 10) (by omega) (by omega)

/-! ### Numbers -/

/-- What may come after a value: another one, the end of a list or of a record, or nothing. -/
def Ends (rest : List Char) : Prop := ∀ c ∈ rest.head?, c = ',' ∨ c = ']' ∨ c = '\x7d'

/-- A number as the grammar has it: the reader takes all of it. -/
def IsNumeral (digits : String) : Prop := number? digits.toList = some (.number digits, [])

section Numbers

variable {c : Char} {cs ds part rest : List Char} {j : Json}

theorem ends_nil : Ends [] := by simp [Ends]

theorem ends_cons (hc : c = ',' ∨ c = ']' ∨ c = '\x7d') (rest : List Char) :
    Ends (c :: rest) := by simpa [Ends] using hc

theorem Ends.cases (h : Ends rest) :
    rest = [] ∨ ∃ c cs, rest = c :: cs ∧ (c = ',' ∨ c = ']' ∨ c = '\x7d') := by
  cases rest with
  | nil => exact .inl rfl
  | cons c cs => exact .inr ⟨c, cs, rfl, h c rfl⟩

theorem minus_cons (hc : c ≠ '-') (cs : List Char) : minus (c :: cs) = ([], c :: cs) := by
  simp [minus, hc]

theorem integer?_cons (hc : c ≠ '0') (cs : List Char) :
    integer? (c :: cs) = digits? (c :: cs) := by simp [integer?, hc]

theorem fraction?_cons (hc : c ≠ '.') (cs : List Char) :
    fraction? (c :: cs) = some ([], c :: cs) := by simp [fraction?, hc]

theorem exponentSign_cons (hp : c ≠ '+') (hm : c ≠ '-') (cs : List Char) :
    exponentSign (c :: cs) = ([], c :: cs) := by simp [exponentSign, hp, hm]

/-! What ends a number is no part of one: each rule leaves it alone. -/

theorem span_isDigit_append (cs : List Char) (h : Ends rest) :
    (cs ++ rest).takeWhile Char.isDigit = cs.takeWhile Char.isDigit ∧
      (cs ++ rest).dropWhile Char.isDigit = cs.dropWhile Char.isDigit ++ rest := by
  induction cs with
  | nil => rcases h.cases with rfl | ⟨c, cs, rfl, rfl | rfl | rfl⟩ <;> exact ⟨rfl, rfl⟩
  | cons c cs ih =>
      rw [List.cons_append, List.takeWhile_cons, List.takeWhile_cons, List.dropWhile_cons,
        List.dropWhile_cons, ih.1, ih.2]
      cases c.isDigit <;> exact ⟨rfl, rfl⟩

theorem digits?_append (hd : digits? cs = some (ds, part)) (h : Ends rest) :
    digits? (cs ++ rest) = some (ds, part ++ rest) := by
  rw [digits?, (span_isDigit_append cs h).1, (span_isDigit_append cs h).2]
  rw [digits?] at hd
  split at hd
  · cases hd
  · cases hd
    rfl

theorem integer?_append (hd : integer? cs = some (ds, part)) (h : Ends rest) :
    integer? (cs ++ rest) = some (ds, part ++ rest) := by
  cases cs with
  | nil => cases hd
  | cons c cs =>
      by_cases hc : c = '0'
      · subst hc
        cases hd
        rfl
      · rw [integer?_cons hc] at hd
        rw [List.cons_append, integer?_cons hc]
        exact digits?_append hd h

theorem fraction?_append (hd : fraction? cs = some (ds, part)) (h : Ends rest) :
    fraction? (cs ++ rest) = some (ds, part ++ rest) := by
  cases cs with
  | nil =>
      cases hd
      rcases h.cases with rfl | ⟨c, cs, rfl, rfl | rfl | rfl⟩ <;> rfl
  | cons c cs =>
      by_cases hc : c = '.'
      · subst hc
        obtain ⟨p, hdigits, heq⟩ := Option.map_eq_some_iff.1 hd
        cases heq
        exact Option.map_eq_some_iff.2 ⟨_, digits?_append hdigits h, rfl⟩
      · rw [fraction?_cons hc] at hd
        cases hd
        exact fraction?_cons hc _

theorem exponentSign_append (cs : List Char) (h : Ends rest) :
    exponentSign (cs ++ rest) = ((exponentSign cs).1, (exponentSign cs).2 ++ rest) := by
  cases cs with
  | nil => rcases h.cases with rfl | ⟨c, cs, rfl, rfl | rfl | rfl⟩ <;> rfl
  | cons c cs =>
      by_cases hp : c = '+'
      · subst hp
        rfl
      · by_cases hm : c = '-'
        · subst hm
          rfl
        · rw [exponentSign_cons hp hm, List.cons_append, exponentSign_cons hp hm]

theorem exponent?_append (hd : exponent? cs = some (ds, part)) (h : Ends rest) :
    exponent? (cs ++ rest) = some (ds, part ++ rest) := by
  cases cs with
  | nil =>
      cases hd
      rcases h.cases with rfl | ⟨c, cs, rfl, rfl | rfl | rfl⟩ <;> rfl
  | cons c cs =>
      rw [List.cons_append]
      rw [exponent?] at hd ⊢
      split at hd
      · rename_i hc
        rw [if_pos hc, exponentSign_append cs h]
        obtain ⟨p, hdigits, heq⟩ := Option.map_eq_some_iff.1 hd
        cases heq
        exact Option.map_eq_some_iff.2 ⟨_, digits?_append hdigits h, rfl⟩
      · rename_i hc
        cases hd
        exact if_neg hc

theorem minus_append (hne : cs ≠ []) (rest : List Char) :
    minus (cs ++ rest) = ((minus cs).1, (minus cs).2 ++ rest) := by
  cases cs with
  | nil => contradiction
  | cons c cs =>
      by_cases hc : c = '-'
      · subst hc
        rfl
      · rw [minus_cons hc, List.cons_append, minus_cons hc]

/-- A number is read up to where it ends. -/
theorem number?_append (hd : number? cs = some (j, part)) (h : Ends rest) :
    number? (cs ++ rest) = some (j, part ++ rest) := by
  have hne : cs ≠ [] := by
    rintro rfl
    cases hd
  simp only [number?, Option.bind_eq_bind, Option.bind_eq_some_iff] at hd
  obtain ⟨⟨whole, cs₁⟩, hwhole, ⟨fraction, cs₂⟩, hfraction, ⟨power, cs₃⟩, hpower, heq⟩ := hd
  cases heq
  simp only [number?, minus_append hne, integer?_append hwhole h, fraction?_append hfraction h,
    exponent?_append hpower h, Option.bind_eq_bind, Option.bind_some]
  rfl

theorem IsNumeral.number?_append {digits : String} (hd : IsNumeral digits) (h : Ends rest) :
    number? (digits.toList ++ rest) = some (.number digits, rest) := Json.number?_append hd h

/-- A number starts with its sign or with a digit. -/
theorem IsNumeral.exists_cons {digits : String} (hd : IsNumeral digits) :
    ∃ c cs, digits.toList = c :: cs ∧ (c = '-' ∨ c.isDigit = true) := by
  rw [IsNumeral] at hd
  cases hcs : digits.toList with
  | nil =>
      rw [hcs] at hd
      cases hd
  | cons c cs =>
      refine ⟨c, cs, rfl, ?_⟩
      by_contra hc
      obtain ⟨hm, hdigit⟩ := not_or.1 hc
      have hzero : c ≠ '0' := by
        rintro rfl
        exact hdigit rfl
      have hnone : digits? (c :: cs) = none := by
        rw [digits?, List.takeWhile_cons_of_neg hdigit]
      rw [hcs, number?, minus_cons hm] at hd
      simp only [integer?_cons hzero, hnone] at hd
      cases hd

theorem integer?_toDigits (n : Nat) :
    integer? (Nat.toDigits 10 n) = some (Nat.toDigits 10 n, []) := by
  by_cases hn : n = 0
  · rw [hn, Nat.toDigits_zero]
    rfl
  · have hall : ∀ c ∈ Nat.toDigits 10 n, c.isDigit = true := fun _ => isDigit_of_mem_toDigits
    have hhead := head?_toDigits hn
    cases hcs : Nat.toDigits 10 n with
    | nil => exact absurd hcs Nat.toDigits_ne_nil
    | cons c cs =>
        rw [hcs] at hall hhead
        rw [integer?_cons (fun hc => hhead (congrArg some hc)), digits?,
          List.takeWhile_eq_self_iff.2 hall, List.dropWhile_eq_nil_iff.2 hall]

/-- A natural number is written as one. -/
theorem isNumeral_toString (n : Nat) : IsNumeral (toString n) := by
  have hminus : minus (Nat.toDigits 10 n) = ([], Nat.toDigits 10 n) := by
    cases hcs : Nat.toDigits 10 n with
    | nil => exact absurd hcs Nat.toDigits_ne_nil
    | cons c cs =>
        refine minus_cons ?_ cs
        rintro rfl
        exact absurd (isDigit_of_mem_toDigits (hcs ▸ List.mem_cons_self)) (by decide)
  rw [IsNumeral, toList_toString, number?, hminus]
  simp only [integer?_toDigits, fraction?, exponent?, Option.bind_eq_bind, Option.bind_some,
    List.nil_append, List.append_nil]
  rw [Nat.toString_eq_repr, Nat.repr_eq_ofList_toDigits]
  rfl

end Numbers

/-! ### Strings -/

section Strings

variable {fuel : Nat} {cs rest : List Char}

theorem hexValue?_digitChar {d : Nat} (hd : d < 16) : hexValue? d.digitChar = some d := by
  revert d
  decide

theorem codes?_short {code : Nat} {e : Char} (hu : e ≠ 'u') (he : shortEscape? e = some code) :
    codes? (fuel + 1) ('\\' :: e :: cs) = (codes? fuel cs).map fun p => (code :: p.1, p.2) := by
  rw [codes?, if_neg (by decide), if_pos rfl]
  dsimp only
  rw [if_neg hu, he, Option.map_eq_bind]
  rfl

theorem codes?_hex {n : Nat} (hn : n < 256) :
    codes? (fuel + 1)
        ('\\' :: 'u' :: '0' :: '0' :: (n / 16).digitChar :: (n % 16).digitChar :: cs) =
      (codes? fuel cs).map fun p => (n :: p.1, p.2) := by
  have hquad : hexQuad? ('0' :: '0' :: (n / 16).digitChar :: (n % 16).digitChar :: cs) =
      some (n, cs) := by
    rw [hexQuad?, hexValue?_digitChar (by omega : n / 16 < 16),
      hexValue?_digitChar (by omega : n % 16 < 16)]
    simp [hexValue?, Nat.div_add_mod]
  rw [codes?, if_neg (by decide), if_pos rfl]
  dsimp only
  rw [if_pos rfl, hquad, Option.map_eq_bind]
  rfl

theorem codes?_plain {c : Char} (hquote : c ≠ '\x22') (hslash : c ≠ '\\') (hc : ¬ c.toNat < 32) :
    codes? (fuel + 1) (c :: cs) = (codes? fuel cs).map fun p => (c.toNat :: p.1, p.2) := by
  rw [codes?.eq_def]
  dsimp only
  rw [if_neg hquote, if_neg hslash, if_neg hc, Option.map_eq_bind]
  rfl

/-- A character is read as it is written, escaped or not. -/
theorem codes?_escapeChar (c : Char) :
    codes? (fuel + 1) (escapeChar c ++ cs) =
      (codes? fuel cs).map fun p => (c.toNat :: p.1, p.2) := by
  rw [escapeChar]
  split_ifs with hquote hslash hb ht hn hf hr hcontrol
  · subst hquote
    exact codes?_short (by decide) rfl
  · subst hslash
    exact codes?_short (by decide) rfl
  · subst hb
    exact codes?_short (by decide) rfl
  · subst ht
    exact codes?_short (by decide) rfl
  · subst hn
    exact codes?_short (by decide) rfl
  · subst hf
    exact codes?_short (by decide) rfl
  · subst hr
    exact codes?_short (by decide) rfl
  · exact codes?_hex (by omega)
  · exact codes?_plain hquote hslash hcontrol

/-- A text is read up to its closing quotation mark. -/
theorem codes?_flatMap (text : List Char) (hf : text.length < fuel) :
    codes? fuel (text.flatMap escapeChar ++ '\x22' :: rest) = some (text.map Char.toNat, rest) := by
  induction text generalizing fuel with
  | nil =>
      cases fuel with
      | zero => cases hf
      | succ fuel => rfl
  | cons c text ih =>
      cases fuel with
      | zero => cases hf
      | succ fuel =>
          rw [List.flatMap_cons, List.append_assoc, codes?_escapeChar,
            ih (Nat.lt_of_succ_lt_succ hf)]
          rfl

/-- No character is half of a surrogate pair. -/
theorem not_isHalf (c : Char) : isHighHalf c.toNat = false ∧ isLowHalf c.toNat = false := by
  have hvalid : c.toNat < 0xD800 ∨ 0xDFFF < c.toNat ∧ c.toNat < 0x110000 := c.valid
  simp only [isHighHalf, isLowHalf, Bool.and_eq_false_iff, decide_eq_false_iff_not]
  omega

theorem joinHalves_map_toNat (text : List Char) : joinHalves (text.map Char.toNat) = some text := by
  induction text with
  | nil => rfl
  | cons c text ih =>
      obtain ⟨hhigh, hlow⟩ := not_isHalf c
      cases text with
      | nil => simp [joinHalves, hhigh, hlow]
      | cons d text =>
          rw [List.map_cons] at ih
          simp [joinHalves, hhigh, hlow, ih]

theorem one_le_length_escapeChar (c : Char) : 1 ≤ (escapeChar c).length := by
  rw [escapeChar]
  split_ifs <;> simp

theorem length_le_flatMap_escapeChar (text : List Char) :
    text.length ≤ (text.flatMap escapeChar).length := by
  induction text with
  | nil => exact Nat.zero_le _
  | cons c text ih =>
      have hc := one_le_length_escapeChar c
      rw [List.flatMap_cons, List.length_append, List.length_cons]
      omega

/-- A text is read as it is written. -/
theorem string?_renderString (s : String) :
    string? ((s.toList.flatMap escapeChar) ++ '\x22' :: rest) = some (some s, rest) := by
  have hlen := length_le_flatMap_escapeChar s.toList
  rw [string?, codes?_flatMap s.toList (by rw [List.length_append]; omega), Option.map_some,
    joinHalves_map_toNat, Option.map_some, String.ofList_toList]

end Strings

end ChatBot.Json
