import Mathlib.Data.List.DropRight
import ChatBot.Text.Whitespace
import ChatBot.Text.Word

/-!
# Texts without surrounding whitespace

A trimmed text has no whitespace at its ends, and trimming changes no such text.  Words have no
whitespace at all.  A spaced text has no whitespace but spaces, as what is left after collapsing.
-/

namespace ChatBot.Text

/-- No range of one set meets a range of the other. -/
def CharSet.Apart (s t : CharSet) : Prop :=
  ∀ p ∈ s.ranges, ∀ q ∈ t.ranges, p.2 < q.1 ∨ q.2 < p.1

instance (s t : CharSet) : Decidable (s.Apart t) :=
  inferInstanceAs (Decidable (∀ p ∈ s.ranges, ∀ q ∈ t.ranges, p.2 < q.1 ∨ q.2 < p.1))

theorem CharSet.Apart.not_has {s t : CharSet} (h : s.Apart t) {c : Char} (hc : s.has c = true) :
    t.has c = false := by
  obtain ⟨p, hp, hcp⟩ := List.any_eq_true.mp hc
  refine List.any_eq_false.mpr fun q hq hcq => ?_
  simp only [Bool.and_eq_true, decide_eq_true_eq] at hcp hcq
  have := h p hp q hq
  omega

theorem isSpace_of_isWordChar {c : Char} (h : isWordChar c = true) : isSpace c = false := by
  rw [isWordChar, Bool.or_eq_true, Bool.and_eq_true] at h
  rcases h with ⟨ha, -⟩ | hj
  · exact CharSet.Apart.not_has (by decide +kernel : alphabetic.Apart whiteSpace) ha
  · exact CharSet.Apart.not_has (by decide +kernel : wordJoiners.Apart whiteSpace) hj

theorem isSpace_of_isAlpha {c : Char} (h : c.isAlpha = true) : isSpace c = false := by
  have hc : (65 ≤ c.toNat ∧ c.toNat ≤ 90) ∨ (97 ≤ c.toNat ∧ c.toNat ≤ 122) := by
    delta Char.isAlpha Char.isUpper Char.isLower at h
    simp only [Bool.or_eq_true, Bool.and_eq_true, decide_eq_true_eq, ge_iff_le,
      UInt32.le_iff_toNat_le] at h
    exact h
  refine Bool.eq_false_iff.mpr fun hs => ?_
  simp [isSpace, CharSet.has, whiteSpace] at hs
  omega

/-! ### Trimming -/

/-- There is no whitespace at the ends. -/
structure IsTrimmed (s : String) : Prop where
  head : ∀ c ∈ s.toList.head?, isSpace c = false
  last : ∀ c ∈ s.toList.getLast?, isSpace c = false

theorem trimChars_eq (cs : List Char) : trimChars cs = (cs.dropWhile isSpace).rdropWhile isSpace :=
  rfl

theorem mem_of_mem_trim {s : String} {c : Char} (h : c ∈ (trim s).toList) : c ∈ s.toList := by
  rw [trim, String.toList_ofList, trimChars_eq] at h
  exact (List.dropWhile_sublist _).mem ((List.rdropWhile_prefix _ _).mem h)

theorem isTrimmed_trim (s : String) : IsTrimmed (trim s) := by
  rw [trim, trimChars_eq]
  constructor <;> rw [String.toList_ofList] <;> intro c hc
  -- what is left at the front was not dropped there
  · obtain ⟨cs, hcs⟩ := List.head?_eq_some_iff.mp hc
    obtain ⟨ds, hds⟩ := List.rdropWhile_prefix isSpace (s.toList.dropWhile isSpace)
    have hd := List.head?_dropWhile_not isSpace s.toList
    rwa [← hds, hcs] at hd
  · obtain ⟨hne, rfl⟩ := List.mem_getLast?_eq_getLast hc
    exact Bool.eq_false_iff.mpr (List.rdropWhile_last_not _ _ hne)

/-- Something is left of a text that is not blank. -/
theorem trim_ne_empty {s : String} (h : isBlank s = false) : trim s ≠ "" := by
  obtain ⟨c, hc, hs⟩ := List.all_eq_false.mp h
  intro he
  rw [trim, String.ofList_eq_empty_iff, trimChars_eq, List.rdropWhile_eq_nil_iff] at he
  rw [← List.takeWhile_append_dropWhile (p := isSpace) (l := s.toList), List.mem_append] at hc
  exact hs (hc.elim (fun ht => List.mem_takeWhile_imp ht) (he c))

theorem isTrimmed_of_forall {s : String} (h : ∀ c ∈ s.toList, isSpace c = false) : IsTrimmed s where
  head c hc := h c (List.mem_of_mem_head? hc)
  last c hc := h c (List.mem_of_mem_getLast? hc)

theorem IsTrimmed.trim_eq {s : String} (h : IsTrimmed s) : trim s = s := by
  have hl : s.toList.dropWhile isSpace = s.toList := by
    cases hs : s.toList with
    | nil => rfl
    | cons c cs =>
        exact List.dropWhile_cons_of_neg (Bool.eq_false_iff.mp (h.head c (by rw [hs]; rfl)))
  have hr : s.toList.rdropWhile isSpace = s.toList :=
    List.rdropWhile_eq_self_iff.mpr fun hne =>
      Bool.eq_false_iff.mp (h.last _ (List.getLast?_eq_some_getLast hne))
  rw [trim, trimChars_eq, hl, hr, String.ofList_toList]

/-- Whitespace is dropped at the end of `ds` only, if `cs` does not end with any. -/
theorem rdropWhile_append {cs : List Char} (hl : ∀ c ∈ cs.getLast?, isSpace c = false)
    (ds : List Char) : (cs ++ ds).rdropWhile isSpace = cs ++ ds.rdropWhile isSpace := by
  induction ds using List.reverseRecOn with
  | nil =>
      rw [List.append_nil, List.rdropWhile_nil, List.append_nil, List.rdropWhile_eq_self_iff]
      exact fun hne => Bool.eq_false_iff.mp (hl _ (List.getLast?_eq_some_getLast hne))
  | append_singleton ds c ih =>
      rw [← List.append_assoc, List.rdropWhile_concat, List.rdropWhile_concat, ih]
      split
      · rfl
      · exact List.append_assoc _ _ _

/-- A space in front goes with the whitespace behind it if there is nothing else. -/
theorem rdropWhile_cons {c : Char} (hc : isSpace c = true) (cs : List Char) :
    (c :: cs).rdropWhile isSpace =
      if cs.rdropWhile isSpace = [] then [] else c :: cs.rdropWhile isSpace := by
  induction cs using List.reverseRecOn with
  | nil => rw [List.rdropWhile_singleton, if_pos hc, List.rdropWhile_nil, if_pos rfl]
  | append_singleton cs d ih =>
      rw [← List.cons_append, List.rdropWhile_concat, List.rdropWhile_concat, ih]
      by_cases hd : isSpace d = true
      · simp only [if_pos hd]
      · simp [hd]

theorem trimChars_append {cs : List Char} (hne : cs ≠ [])
    (hh : ∀ c ∈ cs.head?, isSpace c = false) (hl : ∀ c ∈ cs.getLast?, isSpace c = false)
    (ds : List Char) : trimChars (cs ++ ds) = cs ++ ds.rdropWhile isSpace := by
  rw [trimChars_eq]
  obtain ⟨c, cs, rfl⟩ := List.exists_cons_of_ne_nil hne
  have hc : ¬ isSpace c = true := Bool.eq_false_iff.mp (hh c rfl)
  rw [List.cons_append, List.dropWhile_cons_of_neg hc, ← List.cons_append]
  exact rdropWhile_append hl ds

theorem trimChars_concat {c : Char} (hc : isSpace c = true) (cs : List Char) :
    trimChars (cs ++ [c]) = trimChars cs := by
  rw [trimChars_eq, trimChars_eq, List.dropWhile_append, List.dropWhile_cons_of_pos hc]
  split
  · rename_i h
    rw [List.isEmpty_iff.mp h, List.dropWhile_nil]
  · exact List.rdropWhile_concat_pos _ _ _ hc

theorem trimChars_rdropWhile (cs : List Char) :
    trimChars (cs.rdropWhile isSpace) = trimChars cs := by
  induction cs using List.reverseRecOn with
  | nil => rfl
  | append_singleton cs c ih =>
      by_cases hc : isSpace c = true
      · rw [List.rdropWhile_concat_pos _ _ _ hc, ih, trimChars_concat hc]
      · rw [List.rdropWhile_concat_neg _ _ _ hc]

/-! ### Spaces only -/

/-- The space is the only whitespace among `cs`. -/
def IsSpaced (cs : List Char) : Prop :=
  ∀ c ∈ cs, isSpace c = true → c = ' '

instance (cs : List Char) : Decidable (IsSpaced cs) :=
  List.decidableBAll (fun c => isSpace c = true → c = ' ') cs

/-- `c`, or a space where `c` is whitespace. -/
def toSpace (c : Char) : Char :=
  if isSpace c then ' ' else c

@[simp] theorem isSpace_toSpace (c : Char) : isSpace (toSpace c) = isSpace c := by
  rw [toSpace]
  split
  · rename_i hc
    rw [hc]
    decide
  · rfl

theorem toSpace_eq {c : Char} (h : isSpace c = true → c = ' ') : toSpace c = c := by
  rw [toSpace]
  split
  · rename_i hc
    exact (h hc).symm
  · rfl

/-- `s` with a space in place of every whitespace character. -/
def spaced (s : String) : String := String.ofList (s.toList.map toSpace)

theorem spaced_eq {s : String} (h : IsSpaced s.toList) : spaced s = s := by
  rw [spaced, List.map_congr_left fun c hc => toSpace_eq (h c hc), List.map_id', String.ofList_toList]

theorem isSpaced_spaced (s : String) : IsSpaced (spaced s).toList := by
  intro c hc hs
  rw [spaced, String.toList_ofList] at hc
  obtain ⟨d, -, rfl⟩ := List.mem_map.mp hc
  rw [isSpace_toSpace] at hs
  rw [toSpace, if_pos hs]

theorem isSpaced_collapseFrom (inRun : Bool) (cs : List Char) :
    IsSpaced (collapseFrom inRun cs) := by
  induction cs generalizing inRun with
  | nil => exact fun c hc => absurd hc List.not_mem_nil
  | cons c cs ih =>
      rw [collapseFrom]
      split
      · split
        · exact ih true
        · exact List.forall_mem_cons.mpr ⟨fun _ => rfl, ih true⟩
      · rename_i hc
        exact List.forall_mem_cons.mpr ⟨fun hs => absurd hs hc, ih false⟩

end ChatBot.Text
