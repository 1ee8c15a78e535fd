import Mathlib.Data.List.Basic
import ChatBot.Directory

/-!
# Directories are sorted

The names of a directory strictly increase, so that each of them has one value and the entries are
what `get?` finds.  To take out a name that is not in use is to do nothing, also when it was filed
just before.
-/

namespace ChatBot.Directory

variable {α : Type}

/-- The names strictly increase. -/
def Sorted (d : Directory α) : Prop := d.names.Pairwise (· < ·)

theorem sorted_empty : ({} : Directory α).Sorted := List.Pairwise.nil

theorem find_eq_none_iff {name : String} {es : List (String × α)} :
    find name es = none ↔ ∀ e ∈ es, e.1 ≠ name := by
  induction es with
  | nil => simp [find]
  | cons e es ih => by_cases h : e.1 = name <;> simp [find, h, ih]

/-- Names that are filed are the new one and the old ones. -/
theorem mem_place {name : String} {value : α} {es : List (String × α)} {e : String × α}
    (he : e ∈ place name value es) : e = (name, value) ∨ e ∈ es := by
  induction es with
  | nil => simpa [place] using he
  | cons e' es ih =>
      rw [place] at he
      split at he
      · rcases List.mem_cons.mp he with he | he
        · exact .inl he
        · exact .inr (List.mem_cons_of_mem _ he)
      · split at he
        · exact List.mem_cons.mp he
        · rcases List.mem_cons.mp he with he | he
          · exact .inr (he ▸ List.mem_cons_self)
          · exact (ih he).imp id (List.mem_cons_of_mem _)

theorem pairwise_place {name : String} {value : α} {es : List (String × α)}
    (hs : es.Pairwise (·.1 < ·.1)) : (place name value es).Pairwise (·.1 < ·.1) := by
  induction es with
  | nil => exact List.pairwise_singleton _ _
  | cons e es ih =>
      obtain ⟨he, hes⟩ := List.pairwise_cons.mp hs
      rw [place]
      split
      · rename_i hn
        exact List.pairwise_cons.mpr ⟨fun e' hm => hn ▸ he e' hm, hes⟩
      · rename_i hn
        split
        · rename_i hlt
          refine List.pairwise_cons.mpr ⟨fun e' hm => ?_, hs⟩
          rcases List.mem_cons.mp hm with rfl | hm
          · exact hlt
          · exact String.lt_trans hlt (he e' hm)
        · rename_i hlt
          refine List.pairwise_cons.mpr ⟨fun e' hm => ?_, ih hes⟩
          rcases mem_place hm with rfl | hm
          · exact Std.lt_of_le_of_ne hlt hn
          · exact he e' hm

theorem sorted_iff {d : Directory α} : d.Sorted ↔ d.entries.Pairwise (·.1 < ·.1) := by
  rw [Sorted, names, List.pairwise_map]

theorem Sorted.set {d : Directory α} (hs : d.Sorted) (name : String) (value : α) :
    (d.set name value).Sorted :=
  sorted_iff.mpr (pairwise_place (sorted_iff.mp hs))

theorem Sorted.erase {d : Directory α} (hs : d.Sorted) (name : String) : (d.erase name).Sorted :=
  sorted_iff.mpr ((sorted_iff.mp hs).filter _)

/-- The entries of a sorted directory are what is found in it. -/
theorem Sorted.mem_entries_iff {d : Directory α} (hs : d.Sorted) {name : String} {value : α} :
    (name, value) ∈ d.entries ↔ d.get? name = some value := by
  obtain ⟨es⟩ := d
  have hs := sorted_iff.mp hs
  simp only [get?]
  induction es with
  | nil => simp [find]
  | cons e es ih =>
      obtain ⟨he, hes⟩ := List.pairwise_cons.mp hs
      obtain ⟨first, v⟩ := e
      have ih : (name, value) ∈ es ↔ find name es = some value := ih (sorted_iff.mpr hes) hes
      rw [find, List.mem_cons, ih]
      by_cases hn : first = name
      · subst hn
        -- the name does not come again
        have hf : find first es = none :=
          find_eq_none_iff.mpr fun e' hm hn' => String.lt_irrefl first (hn' ▸ he e' hm)
        simp [hf, eq_comm]
      · simp [hn, Ne.symm hn]

theorem erase_of_get?_eq_none {d : Directory α} {name : String} (hn : d.get? name = none) :
    d.erase name = d := by
  obtain ⟨es⟩ := d
  have hf := find_eq_none_iff.mp hn
  rw [erase]
  congr 1
  exact List.filter_eq_self.mpr fun e he => by simpa using hf e he

/-- What was filed under a new name can be taken back. -/
theorem erase_set_of_get?_eq_none {d : Directory α} {name : String} (hn : d.get? name = none)
    (value : α) : (d.set name value).erase name = d := by
  obtain ⟨es⟩ := d
  simp only [get?] at hn
  simp only [Directory.set, Directory.erase]
  congr 1
  induction es with
  | nil => simp [place]
  | cons e es ih =>
      have hne : e.1 ≠ name := find_eq_none_iff.mp hn e List.mem_cons_self
      rw [find, if_neg hne] at hn
      have hes : es.filter (·.1 != name) = es :=
        List.filter_eq_self.mpr fun e he => by simpa using find_eq_none_iff.mp hn e he
      rw [place, if_neg hne]
      split
      · simp [hne, hes]
      · simpa [hne] using ih hn

/-- Of two values filed under one name, the later one stays. -/
theorem set_set (d : Directory α) (name : String) (v w : α) :
    (d.set name v).set name w = d.set name w := by
  obtain ⟨es⟩ := d
  simp only [Directory.set]
  congr 1
  induction es with
  | nil => simp [place]
  | cons e es ih =>
      by_cases hn : e.1 = name
      · simp [place, hn]
      · by_cases hlt : name < e.1
        · simp [place, hn, hlt]
        · simpa [place, hn, hlt] using ih

end ChatBot.Directory
