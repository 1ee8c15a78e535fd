import ChatBot.Proofs.Json.Words

/-!
# Values are read as they are written

* `Json.IsLegible`: a value whose strings are texts and whose numbers are numerals.  What is not
  legible has no form of its own: a string that is no text is written like the empty one.
* `Json.read?_render`: a legible value is read back from its compact form.
-/

namespace ChatBot.Json

/-- A value that can be told from the way it is written. -/
inductive IsLegible : Json → Prop where
  | null : IsLegible .null
  | bool (b : Bool) : IsLegible (.bool b)
  | number {digits : String} (h : IsNumeral digits) : IsLegible (.number digits)
  | string (s : String) : IsLegible (.string (some s))
  | array {items : List Json} (h : ∀ j ∈ items, IsLegible j) : IsLegible (.array items)
  | object {members : List (Option String × Json)} (hk : ∀ m ∈ members, m.1.isSome = true)
      (hv : ∀ m ∈ members, IsLegible m.2) : IsLegible (.object members)

theorem IsLegible.ofNat (n : Nat) : (Json.ofNat n).IsLegible := .number (isNumeral_toString n)

theorem IsLegible.ofText (s : String) : (Json.ofText s).IsLegible := .string s

theorem IsLegible.ofMembers {members : List (String × Json)} (h : ∀ m ∈ members, m.2.IsLegible) :
    (Json.ofMembers members).IsLegible := by
  refine .object ?_ ?_
  · rintro m hm
    obtain ⟨m, -, rfl⟩ := List.mem_map.1 hm
    rfl
  · rintro m hm
    obtain ⟨m, hmem, rfl⟩ := List.mem_map.1 hm
    exact h m hmem

section

variable {j : Json} {items : List Json} {members : List (Option String × Json)}
  {fuel : Nat} {cs rest : List Char}

theorem skip_cons {c : Char} (hc : isBlank c = false) (cs : List Char) :
    skip (c :: cs) = c :: cs := List.dropWhile_cons_of_neg (by simp [hc])

theorem renderString_append (s : String) (rest : List Char) :
    renderString (some s) ++ rest = '\x22' :: (s.toList.flatMap escapeChar ++ '\x22' :: rest) := by
  simp [renderString]

/-- What a number starts with is nothing else. -/
theorem ne_of_starts {c d : Char} (hc : c = '-' ∨ c.isDigit = true)
    (hd : ¬ (d = '-' ∨ d.isDigit = true)) : c ≠ d := by
  rintro rfl
  exact hd hc

/-- A value starts with no blank, and not like the end of a list. -/
theorem IsLegible.exists_cons (h : j.IsLegible) :
    ∃ c cs, j.renderChars = c :: cs ∧ isBlank c = false ∧ c ≠ ']' := by
  cases h with
  | null => exact ⟨'n', _, rfl, by decide, by decide⟩
  | bool b =>
      cases b
      · exact ⟨'f', _, rfl, by decide, by decide⟩
      · exact ⟨'t', _, rfl, by decide, by decide⟩
  | number hd =>
      obtain ⟨c, cs, hcs, hc⟩ := hd.exists_cons
      refine ⟨c, cs, by rw [renderChars, hcs], ?_, ne_of_starts hc (by decide)⟩
      simp only [isBlank, Bool.or_eq_false_iff, decide_eq_false_iff_not]
      exact ⟨⟨⟨ne_of_starts hc (by decide), ne_of_starts hc (by decide)⟩,
        ne_of_starts hc (by decide)⟩, ne_of_starts hc (by decide)⟩
  | string s => exact ⟨'\x22', _, by rw [renderChars, renderString]; rfl, by decide, by decide⟩
  | array h => exact ⟨'[', _, by rw [renderChars]; rfl, by decide, by decide⟩
  | object hk hv => exact ⟨'\x7b', _, by rw [renderChars]; rfl, by decide, by decide⟩

/-- With enough fuel, a value is read up to where it ends. -/
def Reads (j : Json) : Prop :=
  ∀ {fuel : Nat} {rest : List Char}, 2 * j.renderChars.length < fuel → Ends rest →
    readValue? fuel (j.renderChars ++ rest) = some (j, rest)

theorem reads_of_succ (h : ∀ {fuel : Nat} {rest : List Char}, 2 * j.renderChars.length ≤ fuel →
    Ends rest → readValue? (fuel + 1) (j.renderChars ++ rest) = some (j, rest)) : j.Reads := by
  rintro (_ | fuel) rest hf hrest
  · cases hf
  · exact h (Nat.le_of_lt_succ hf) hrest

theorem reads_null : Reads .null := reads_of_succ fun _ _ => rfl

theorem reads_bool (b : Bool) : (Json.bool b).Reads := by
  cases b <;> exact reads_of_succ fun _ _ => rfl

theorem reads_number {digits : String} (hd : IsNumeral digits) : (Json.number digits).Reads := by
  refine reads_of_succ fun _ hrest => ?_
  have hread := hd.number?_append hrest
  obtain ⟨c, cs, hcs, hblank, -⟩ := (IsLegible.number hd).exists_cons
  obtain ⟨c', cs', hcs', hc⟩ := hd.exists_cons
  rw [renderChars] at hcs ⊢
  cases hcs.symm.trans hcs'
  rw [hcs, List.cons_append] at hread ⊢
  rw [readValue?, skip_cons hblank]
  dsimp only
  rw [if_neg (ne_of_starts hc (by decide)), if_neg (ne_of_starts hc (by decide)),
    if_neg (ne_of_starts hc (by decide)), if_pos (by simpa using hc)]
  exact hread

theorem reads_string (s : String) : (Json.string (some s)).Reads := by
  refine reads_of_succ fun _ _ => ?_
  rw [renderChars, renderString_append, readValue?, skip_cons (by decide)]
  dsimp only
  rw [if_pos rfl, string?_renderString]
  rfl

theorem renderItems_cons_cons (j k : Json) (items : List Json) :
    renderItems (j :: k :: items) = j.renderChars ++ ',' :: renderItems (k :: items) := by
  simp [renderItems]

theorem renderMembers_cons_cons (s : Option String) (j : Json) (m : Option String × Json)
    (members : List (Option String × Json)) :
    renderMembers ((s, j) :: m :: members) =
      renderString s ++ ':' :: (j.renderChars ++ ',' :: renderMembers (m :: members)) := by
  simp [renderMembers]

/-! ### Lists -/

theorem readItems?_last (h : readValue? fuel cs = some (j, ']' :: rest)) :
    readItems? (fuel + 1) cs = some ([j], rest) := by
  rw [readItems?, h]
  rfl

theorem readItems?_more (h : readValue? fuel cs = some (j, ',' :: rest)) :
    readItems? (fuel + 1) cs = (readItems? fuel rest).map fun p => (j :: p.1, p.2) := by
  rw [readItems?, h, Option.map_eq_bind]
  rfl

/-- The items of a list are read up to its end. -/
theorem readItems?_renderItems (hne : items ≠ []) (h : ∀ j ∈ items, j.Reads)
    (hf : 2 * (renderItems items).length + 1 < fuel) :
    readItems? fuel (renderItems items ++ ']' :: rest) = some (items, rest) := by
  induction items generalizing fuel with
  | nil => contradiction
  | cons j items ih =>
      cases fuel with
      | zero => cases hf
      | succ fuel =>
          have hj : j.Reads := h j List.mem_cons_self
          cases items with
          | nil =>
              rw [renderItems] at hf ⊢
              exact readItems?_last (hj (by omega) (ends_cons (.inr (.inl rfl)) rest))
          | cons k items =>
              rw [renderItems_cons_cons, List.length_append, List.length_cons] at hf
              rw [renderItems_cons_cons, List.append_assoc, List.cons_append,
                readItems?_more (hj (by omega) (ends_cons (.inl rfl) _)),
                ih (List.cons_ne_nil k items) (fun j hj => h j (List.mem_cons_of_mem _ hj))
                  (by omega)]
              rfl

theorem exists_renderItems (h : ∀ j ∈ items, j.IsLegible) (hne : items ≠ []) :
    ∃ c cs, renderItems items = c :: cs ∧ isBlank c = false ∧ c ≠ ']' := by
  cases items with
  | nil => contradiction
  | cons j items =>
      obtain ⟨c, cs, hcs, hc⟩ := (h j List.mem_cons_self).exists_cons
      cases items with
      | nil => exact ⟨c, cs, by rw [renderItems, hcs], hc⟩
      | cons k items => exact ⟨c, _, by rw [renderItems_cons_cons, hcs]; rfl, hc⟩

theorem reads_array (h : ∀ j ∈ items, j.IsLegible) (hr : ∀ j ∈ items, j.Reads) :
    (Json.array items).Reads := by
  refine reads_of_succ fun {fuel rest} hf _ => ?_
  rw [renderChars, List.length_append, List.length_cons] at hf
  rw [renderChars, List.cons_append, List.cons_append, List.append_assoc, List.singleton_append,
    readValue?, skip_cons (by decide)]
  dsimp only
  rw [if_neg (by decide), if_pos rfl]
  by_cases hne : items = []
  · rw [hne]
    rfl
  · obtain ⟨c, cs, hcs, hblank, hclose⟩ := exists_renderItems h hne
    have hitems : readItems? fuel (renderItems items ++ ']' :: rest) = some (items, rest) :=
      readItems?_renderItems hne hr (by omega)
    rw [hcs, List.cons_append] at hitems ⊢
    rw [skip_cons hblank]
    split
    · rename_i heq
      exact absurd (List.cons.inj heq).1 hclose
    · rw [hitems]
      rfl

/-! ### Records -/

/-- A key and its value are read together. -/
theorem readMembers?_renderString {s : String} (h : readValue? fuel cs = some (j, rest)) :
    readMembers? (fuel + 1) (renderString (some s) ++ ':' :: cs) =
      match skip rest with
      | ',' :: rest => (readMembers? fuel rest).map fun p => ((some s, j) :: p.1, p.2)
      | '\x7d' :: rest => some ([(some s, j)], rest)
      | _ => none := by
  have hkey : after? ['\x22'] (skip (renderString (some s) ++ ':' :: cs)) =
      some (s.toList.flatMap escapeChar ++ '\x22' :: ':' :: cs) := by
    rw [renderString_append, skip_cons (by decide)]
    simp [after?]
  have hcolon : after? [':'] (skip (':' :: cs)) = some cs := by
    rw [skip_cons (by decide)]
    simp [after?]
  rw [readMembers?, hkey]
  simp only [Option.bind_eq_bind, Option.bind_some, string?_renderString, hcolon, h,
    Option.map_eq_bind]
  rfl

theorem readMembers?_last {s : String} (h : readValue? fuel cs = some (j, '\x7d' :: rest)) :
    readMembers? (fuel + 1) (renderString (some s) ++ ':' :: cs) = some ([(some s, j)], rest) :=
  readMembers?_renderString h

theorem readMembers?_more {s : String} (h : readValue? fuel cs = some (j, ',' :: rest)) :
    readMembers? (fuel + 1) (renderString (some s) ++ ':' :: cs) =
      (readMembers? fuel rest).map fun p => ((some s, j) :: p.1, p.2) :=
  readMembers?_renderString h

/-- The members of a record are read up to its end. -/
theorem readMembers?_renderMembers (hne : members ≠ []) (hk : ∀ m ∈ members, m.1.isSome = true)
    (h : ∀ m ∈ members, m.2.Reads) (hf : 2 * (renderMembers members).length + 1 < fuel) :
    readMembers? fuel (renderMembers members ++ '\x7d' :: rest) = some (members, rest) := by
  induction members generalizing fuel with
  | nil => contradiction
  | cons m members ih =>
      obtain ⟨key, j⟩ := m
      cases fuel with
      | zero => cases hf
      | succ fuel =>
          have hj : j.Reads := h (key, j) List.mem_cons_self
          obtain ⟨s, rfl⟩ := Option.isSome_iff_exists.1 (hk (key, j) List.mem_cons_self)
          cases members with
          | nil =>
              rw [renderMembers, List.length_append, List.length_cons] at hf
              rw [renderMembers, List.append_assoc, List.cons_append]
              exact readMembers?_last (hj (by omega) (ends_cons (.inr (.inr rfl)) rest))
          | cons n members =>
              rw [renderMembers_cons_cons] at hf ⊢
              simp only [List.length_append, List.length_cons] at hf
              rw [List.append_assoc, List.cons_append, List.append_assoc, List.cons_append,
                readMembers?_more (hj (by omega) (ends_cons (.inl rfl) _)),
                ih (List.cons_ne_nil n members) (fun m hm => hk m (List.mem_cons_of_mem _ hm))
                  (fun m hm => h m (List.mem_cons_of_mem _ hm)) (by omega)]
              rfl

theorem exists_renderMembers (hne : members ≠ []) :
    ∃ cs, renderMembers members = '\x22' :: cs := by
  cases members with
  | nil => contradiction
  | cons m members =>
      cases members with
      | nil => exact ⟨_, by rw [renderMembers, renderString]; rfl⟩
      | cons n members => exact ⟨_, by rw [renderMembers_cons_cons, renderString]; rfl⟩

theorem reads_object (hk : ∀ m ∈ members, m.1.isSome = true) (hr : ∀ m ∈ members, m.2.Reads) :
    (Json.object members).Reads := by
  refine reads_of_succ fun {fuel rest} hf _ => ?_
  rw [renderChars, List.length_append, List.length_cons] at hf
  rw [renderChars, List.cons_append, List.cons_append, List.append_assoc, List.singleton_append,
    readValue?, skip_cons (by decide)]
  dsimp only
  rw [if_neg (by decide), if_neg (by decide), if_pos rfl]
  by_cases hne : members = []
  · rw [hne]
    rfl
  · obtain ⟨cs, hcs⟩ := exists_renderMembers hne
    have hmembers : readMembers? fuel (renderMembers members ++ '\x7d' :: rest) =
        some (members, rest) := readMembers?_renderMembers hne hk hr (by omega)
    rw [hcs, List.cons_append] at hmembers ⊢
    rw [skip_cons (by decide)]
    exact congrArg (Option.map fun p => (Json.object p.1, p.2)) hmembers

/-- A legible value is read up to where it ends. -/
theorem IsLegible.reads (h : j.IsLegible) : j.Reads := by
  induction h with
  | null => exact reads_null
  | bool b => exact reads_bool b
  | number hd => exact reads_number hd
  | string s => exact reads_string s
  | array h ih => exact reads_array h ih
  | object hk hv ih => exact reads_object hk ih

/-- **What is written is read**: a legible value is the one its compact form spells. -/
theorem read?_render (h : j.IsLegible) : read? j.render = some j := by
  have hread : readValue? (2 * j.renderChars.length + 2) (j.renderChars ++ []) = some (j, []) :=
    h.reads (by omega) ends_nil
  rw [List.append_nil] at hread
  rw [read?, render, String.toList_ofList]
  simp only [hread, Option.bind_eq_bind, Option.bind_some]
  rfl

end

end ChatBot.Json
