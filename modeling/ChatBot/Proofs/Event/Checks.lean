import Mathlib.Data.List.Nodup
import ChatBot.Event.Host

/-!
# What schemas and callbacks are checked for

A schema must not declare a name that is reserved, or a name twice.  The schemas of a callback must
declare the names of the event's schema, in any order.  The checks name the first thing that is
wrong, so a refusal is read back here as one of the reasons for it.
-/

namespace ChatBot

/-- The parameter names that are the host's own. -/
def Schema.IsReserved (param : String) : Prop := param.toList.head? = some Schema.reservedStart

/-- Two schemas match when they declare the same names, and as many of them. -/
def Schema.Matches (s t : Schema) : Prop :=
  (∀ p, p ∈ s.params ↔ p ∈ t.params) ∧ s.params.length = t.params.length

theorem Schema.Matches.refl (s : Schema) : s.Matches s := ⟨fun _ => Iff.rfl, rfl⟩

theorem Schema.fits_iff (s t : Schema) : s.fits t = true ↔ s.Matches t := by
  simp only [fits, Matches, Bool.and_eq_true, List.all_eq_true, List.contains_iff_mem, beq_iff_eq]
  constructor
  · rintro ⟨⟨hs, ht⟩, hl⟩
    exact ⟨fun p => ⟨hs p, ht p⟩, hl⟩
  · rintro ⟨hp, hl⟩
    exact ⟨⟨fun p => (hp p).mp, fun p => (hp p).mpr⟩, hl⟩

/-- What the names `ps` of a schema are refused for, after the names `seen`. -/
theorem Schema.validateFrom_error {event : String} {e : EventError} :
    ∀ {ps seen : List String}, validateFrom event seen ps = .error e →
      (∃ p ∈ ps, IsReserved p ∧ e = .reservedParameter event p) ∨
      ∃ p, 2 ≤ (seen ++ ps).count p ∧ e = .repeatedParameter event p
  | [], _, h => by cases h
  | p :: ps, seen, h => by
      rw [validateFrom] at h
      split at h
      · rename_i hr
        cases h
        exact .inl ⟨p, List.mem_cons_self, hr, rfl⟩
      · split at h
        · rename_i hp
          cases h
          -- once among the names seen, and once as the next one
          have hc : 0 < seen.count p := List.count_pos_iff.mpr hp
          refine .inr ⟨p, ?_, rfl⟩
          rw [List.count_append, List.count_cons_self]
          omega
        · rcases validateFrom_error h with ⟨q, hq, hr, he⟩ | ⟨q, hq, he⟩
          · exact .inl ⟨q, List.mem_cons_of_mem _ hq, hr, he⟩
          · exact .inr ⟨q, by rwa [List.perm_middle.count_eq], he⟩

theorem Schema.validateFrom_ok {event : String} :
    ∀ {ps seen : List String}, validateFrom event seen ps = .ok () →
      (∀ p ∈ ps, ¬ IsReserved p) ∧ ps.Nodup ∧ ∀ p ∈ ps, p ∉ seen
  | [], _, _ => by simp
  | p :: ps, seen, h => by
      rw [validateFrom] at h
      split at h
      · cases h
      · rename_i hr
        split at h
        · cases h
        · rename_i hp
          obtain ⟨h₁, h₂, h₃⟩ := validateFrom_ok h
          refine ⟨List.forall_mem_cons.mpr ⟨hr, h₁⟩, List.nodup_cons.mpr ⟨fun hm => ?_, h₂⟩,
            List.forall_mem_cons.mpr ⟨hp, fun q hq hs => h₃ q hq (List.mem_cons_of_mem _ hs)⟩⟩
          exact h₃ p hm List.mem_cons_self

/-- A schema that is not refused declares no reserved name and no name twice. -/
theorem Schema.validate_ok {s : Schema} {event : String} (h : s.validate event = .ok ()) :
    (∀ p ∈ s.params, ¬ IsReserved p) ∧ s.params.Nodup :=
  ⟨(validateFrom_ok h).1, (validateFrom_ok h).2.1⟩

namespace Callback

variable {κ : Type}

/-- Every part of the callback declares the names of the schema. -/
def Fits (c : Callback κ) (s : Schema) : Prop := ∀ p ∈ c.parts, p.2.schema.Matches s

theorem check_ok {c : Callback κ} {event : String} {s : Schema} (h : c.check event s = .ok ()) :
    c.Fits s := by
  intro p hp
  rw [check] at h
  split at h
  · rename_i hm
    rw [misfits, List.filter_eq_nil_iff] at hm
    simpa [Schema.fits_iff] using hm p hp
  · cases h

theorem check_error {c : Callback κ} {event : String} {s : Schema} {e : EventError}
    (h : c.check event s = .error e) :
    ∃ p ∈ c.parts, ¬ p.2.schema.Matches s ∧ e = .signature event p.1 s p.2.schema := by
  rw [check] at h
  split at h
  · cases h
  · rename_i part p rest hm
    cases h
    have hp : (part, p) ∈ c.misfits s := by rw [hm]; exact List.mem_cons_self
    obtain ⟨hp, hf⟩ := List.mem_filter.mp hp
    refine ⟨(part, p), hp, fun h => ?_, rfl⟩
    rw [← Schema.fits_iff] at h
    simp [h] at hf

/-- Checks of several callbacks, one after the other. -/
theorem forM_check_ok {event : String} {s : Schema} :
    ∀ {cs : List (Callback κ)}, (cs.forM (·.check event s) : Except EventError PUnit) = .ok () →
      ∀ c ∈ cs, c.Fits s
  | [], _ => by simp
  | c :: cs, h => by
      rw [List.forM_eq_forM, List.forM_cons] at h
      cases hc : c.check event s with
      | error e => rw [hc] at h; cases h
      | ok u =>
          rw [hc] at h
          exact List.forall_mem_cons.mpr ⟨check_ok hc, forM_check_ok h⟩

theorem forM_check_error {event : String} {s : Schema} {e : EventError} :
    ∀ {cs : List (Callback κ)}, (cs.forM (·.check event s) : Except EventError PUnit) = .error e →
      ∃ c ∈ cs, c.check event s = .error e
  | [], h => by cases h
  | c :: cs, h => by
      rw [List.forM_eq_forM, List.forM_cons] at h
      cases hc : c.check event s with
      | error e' =>
          rw [hc] at h
          cases h
          exact ⟨c, List.mem_cons_self, hc⟩
      | ok u =>
          rw [hc] at h
          obtain ⟨d, hd, he⟩ := forM_check_error h
          exact ⟨d, List.mem_cons_of_mem _ hd, he⟩

end Callback

end ChatBot
