import Mathlib.Data.List.Nodup
import ChatBot.Proofs.Json.Printing

/-!
# The fields of a record

* `Json.IsExcerpt`: some of the fields of a record, in any order and among fields of other names.
* `Json.members?_of_isExcerpt`: in an excerpt, the fields that are kept are found and no others.
-/

namespace ChatBot.Json

/-- The members are those of `fields` whose names are kept, in any order, and any others whose keys
are not among the names of `fields`. -/
def IsExcerpt (fields : List (String × Json)) (keeps : String → Bool)
    (members : List (Option String × Json)) : Prop :=
  ∃ others : List (Option String × Json),
    members.Perm (((fields.filter fun f => keeps f.1).map fun f => (some f.1, f.2)) ++ others) ∧
      ∀ m ∈ others, ∃ key, m.1 = some key ∧ key ∉ fields.map Prod.fst

section

variable {fields : List (String × Json)} {keeps : String → Bool}
  {members : List (Option String × Json)} {name : String} {value : Json}

/-- A record is an excerpt of itself. -/
theorem isExcerpt_self (fields : List (String × Json)) :
    IsExcerpt fields (fun _ => true) (fields.map fun f => (some f.1, f.2)) := by
  refine ⟨[], ?_, nofun⟩
  rw [List.filter_true, List.append_nil]

theorem IsExcerpt.isSome_key (h : IsExcerpt fields keeps members) {m : Option String × Json}
    (hm : m ∈ members) : m.1.isSome = true := by
  obtain ⟨others, hperm, hothers⟩ := h
  rcases List.mem_append.1 (hperm.mem_iff.1 hm) with hm | hm
  · obtain ⟨f, -, rfl⟩ := List.mem_map.1 hm
    rfl
  · obtain ⟨key, hkey, -⟩ := hothers m hm
    rw [hkey]
    rfl

theorem filter_key_eq (hnd : (fields.map Prod.fst).Nodup) (hf : (name, value) ∈ fields) :
    (fields.filter fun f => f.1 == name) = [(name, value)] := by
  induction fields with
  | nil => cases hf
  | cons f fields ih =>
      rw [List.map_cons, List.nodup_cons] at hnd
      rcases List.mem_cons.1 hf with rfl | hf
      · have hnil : (fields.filter fun f => f.1 == name) = [] :=
          List.filter_eq_nil_iff.2 fun g hg hname =>
            hnd.1 (List.mem_map.2 ⟨g, hg, eq_of_beq hname⟩)
        rw [List.filter_cons, hnil]
        simp
      · have hne : ¬ (f.1 == name) = true := fun hname =>
          hnd.1 (List.mem_map.2 ⟨_, hf, (eq_of_beq hname).symm⟩)
        rw [List.filter_cons, if_neg hne, ih hnd.2 hf]

/-- Under the name of a field stands that field alone, if it is kept. -/
theorem IsExcerpt.filter_key (h : IsExcerpt fields keeps members)
    (hnd : (fields.map Prod.fst).Nodup) (hf : (name, value) ∈ fields) :
    (members.filter fun m => m.1 == some name) =
      if keeps name then [(some name, value)] else [] := by
  obtain ⟨others, hperm, hothers⟩ := h
  have hnone : (others.filter fun m => m.1 == some name) = [] := by
    refine List.filter_eq_nil_iff.2 fun m hm hname => ?_
    obtain ⟨key, hkey, hnew⟩ := hothers m hm
    cases hkey.symm.trans (eq_of_beq hname)
    exact hnew (List.mem_map.2 ⟨_, hf, rfl⟩)
  have hkept : ((fields.filter fun f => keeps f.1).filter fun f => f.1 == name) =
      if keeps name then [(name, value)] else [] := by
    rw [List.filter_comm, filter_key_eq hnd hf, List.filter_cons, List.filter_nil]
  have hkey : (fun m : Option String × Json => m.1 == some name) ∘
      (fun f : String × Json => (some f.1, f.2)) = fun f => f.1 == name := by
    funext f
    exact Option.some_beq_some
  have hfilter := hperm.filter fun m => m.1 == some name
  rw [List.filter_append, hnone, List.append_nil, List.filter_map, hkey, hkept] at hfilter
  split at hfilter
  · rename_i hkeeps
    rw [if_pos hkeeps]
    exact List.perm_singleton.1 hfilter
  · rename_i hkeeps
    rw [if_neg hkeeps]
    exact List.perm_nil.1 hfilter

theorem mapM_map_fst {α : Type} {get : String → Option α} {value : String × Json → α}
    (h : ∀ f ∈ fields, get f.1 = some (value f)) :
    (fields.map Prod.fst).mapM get = some (fields.map value) := by
  induction fields with
  | nil => rfl
  | cons f fields ih =>
      rw [List.map_cons, List.mapM_cons, h f List.mem_cons_self,
        ih fun f hf => h f (List.mem_cons_of_mem _ hf)]
      rfl

/-- **An excerpt has the values of the fields that are kept** and of no others. -/
theorem members?_of_isExcerpt (h : IsExcerpt fields keeps members)
    (hnd : (fields.map Prod.fst).Nodup) :
    members? (fields.map Prod.fst) members =
      some (fields.map fun f => if keeps f.1 then some f.2 else none) := by
  have hkeys : ¬ (members.any fun m => m.1.isNone) = true := by
    rw [List.any_eq_true]
    rintro ⟨m, hm, hnone⟩
    have hsome := h.isSome_key hm
    rw [Option.isNone_iff_eq_none] at hnone
    rw [hnone] at hsome
    cases hsome
  rw [members?, if_neg hkeys]
  refine mapM_map_fst ?_
  rintro ⟨name, value⟩ hf
  rw [h.filter_key hnd hf]
  cases keeps name <;> rfl

theorem fields?_of_isExcerpt (names : List String) (hnames : fields.map Prod.fst = names)
    (hnd : names.Nodup) (h : IsExcerpt fields keeps members) :
    (Json.object members).fields? names =
      some (fields.map fun f => if keeps f.1 then some f.2 else none) := by
  subst hnames
  exact members?_of_isExcerpt h hnd

end

end ChatBot.Json
