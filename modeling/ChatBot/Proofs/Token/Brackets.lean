import ChatBot.Node.Parser

/-!
# Brackets

What the two cuts of the parser find.  A nested expression ends at the bracket that closes it, an
assigned value at the first `suppress` outside of brackets.

* `Token.Closes n ts`: after `n` open brackets, `ts` closes all of them and all that it opens, and
  at no point one that is not open.
* `Token.splitClosing_eq_some_iff`: what stands before the closing bracket.
* `Token.splitTerminator_eq_some_iff`: what stands before the terminator, where its brackets close.
-/

namespace ChatBot.Token

/-- A bracket of either kind. -/
def IsBracket : Token → Prop
  | .leftBracket | .rightBracket => True
  | _ => False

/-- Where `n` brackets are open, `ts` closes these and its own. -/
inductive Closes : Nat → List Token → Prop where
  | nil : Closes 0 []
  | opening {n : Nat} {ts : List Token} (h : Closes (n + 1) ts) : Closes n (.leftBracket :: ts)
  | closing {n : Nat} {ts : List Token} (h : Closes n ts) : Closes (n + 1) (.rightBracket :: ts)
  | other {n : Nat} {t : Token} {ts : List Token} (ht : ¬ t.IsBracket) (h : Closes n ts) :
      Closes n (t :: ts)

/-- Every `suppress` of `ts` stands in brackets, of which `n` are open before it. -/
def Covered (n : Nat) (ts : List Token) : Prop :=
  ∀ before after, ts = before ++ .suppress :: after →
    before.count .rightBracket < n + before.count .leftBracket

theorem count_singleton_of_not_isBracket {t : Token} (ht : ¬ t.IsBracket) :
    [t].count .leftBracket = 0 ∧ [t].count .rightBracket = 0 := by
  cases t with
  | leftBracket | rightBracket => exact absurd trivial ht
  | identifier | action | assign | suppress => exact ⟨rfl, rfl⟩

namespace Closes

variable {n m : Nat} {ts us : List Token}

theorem append (h : Closes n ts) (hu : Closes m us) : Closes (n + m) (ts ++ us) := by
  induction h with
  | nil => rwa [Nat.zero_add]
  | opening _ ih => exact .opening (by rwa [Nat.add_right_comm])
  | closing _ ih =>
      rw [Nat.add_right_comm]
      exact .closing ih
  | other ht _ ih => exact .other ht ih

theorem enclose (h : Closes 0 ts) (hu : Closes n us) :
    Closes n (.leftBracket :: (ts ++ .rightBracket :: us)) := by
  refine .opening ?_
  rw [← Nat.zero_add (n + 1)]
  exact h.append (.closing hu)

theorem others (ht : ∀ t ∈ ts, ¬ t.IsBracket) (hu : Closes n us) : Closes n (ts ++ us) := by
  induction ts with
  | nil => exact hu
  | cons t ts ih =>
      rw [List.forall_mem_cons] at ht
      exact .other ht.1 (ih ht.2)

theorem count (h : Closes n ts) : n + ts.count .leftBracket = ts.count .rightBracket := by
  induction h with
  | nil => rfl
  | opening _ ih =>
      rw [List.count_cons_self, List.count_cons_of_ne (by decide)]
      omega
  | closing _ ih =>
      rw [List.count_cons_self, List.count_cons_of_ne (by decide)]
      omega
  | @other n t ts ht _ ih =>
      obtain ⟨hl, hr⟩ := count_singleton_of_not_isBracket ht
      rw [← List.singleton_append, List.count_append, List.count_append]
      omega

end Closes

/-! ### The closing bracket -/

theorem map_cons_eq_some_iff {o : Option (List Token × List Token)} {t : Token}
    {ts after : List Token} :
    o.map (fun p => (t :: p.1, p.2)) = some (ts, after) ↔
      ∃ us, ts = t :: us ∧ o = some (us, after) := by
  rw [Option.map_eq_some_iff]
  constructor
  · rintro ⟨⟨us, after⟩, ho, he⟩
    cases he
    exact ⟨us, rfl, ho⟩
  · rintro ⟨us, rfl, ho⟩
    exact ⟨_, ho, rfl⟩

theorem splitClosing_append {n : Nat} {inside : List Token} (h : Closes n inside)
    (after : List Token) :
    splitClosing n (inside ++ .rightBracket :: after) = some (inside, after) := by
  induction h with
  | nil => rfl
  | opening _ ih | closing _ ih => exact map_cons_eq_some_iff.mpr ⟨_, rfl, ih⟩
  | @other n t ts ht _ ih =>
      cases t with
      | leftBracket | rightBracket => exact absurd trivial ht
      | identifier | action | assign | suppress => exact map_cons_eq_some_iff.mpr ⟨_, rfl, ih⟩

theorem closes_of_splitClosing {n : Nat} {ts inside after : List Token}
    (h : splitClosing n ts = some (inside, after)) :
    ts = inside ++ .rightBracket :: after ∧ Closes n inside := by
  induction ts generalizing n inside with
  | nil => cases h
  | cons t ts ih =>
      cases t with
      | leftBracket =>
          obtain ⟨us, rfl, hu⟩ := map_cons_eq_some_iff.mp h
          obtain ⟨rfl, hc⟩ := ih hu
          exact ⟨rfl, .opening hc⟩
      | rightBracket =>
          cases n with
          | zero =>
              cases h
              exact ⟨rfl, .nil⟩
          | succ n =>
              obtain ⟨us, rfl, hu⟩ := map_cons_eq_some_iff.mp h
              obtain ⟨rfl, hc⟩ := ih hu
              exact ⟨rfl, .closing hc⟩
      | identifier | action | assign | suppress =>
          obtain ⟨us, rfl, hu⟩ := map_cons_eq_some_iff.mp h
          obtain ⟨rfl, hc⟩ := ih hu
          exact ⟨rfl, .other id hc⟩

/-- A list is cut at the bracket that closes what is open. -/
theorem splitClosing_eq_some_iff {n : Nat} {ts inside after : List Token} :
    splitClosing n ts = some (inside, after) ↔
      ts = inside ++ .rightBracket :: after ∧ Closes n inside := by
  refine ⟨closes_of_splitClosing, ?_⟩
  rintro ⟨rfl, h⟩
  exact splitClosing_append h after

/-! ### The terminator -/

theorem covered_nil (n : Nat) : Covered n [] := fun before _ he => by cases before <;> cases he

theorem covered_cons_iff {n m : Nat} {t : Token} {ts : List Token}
    (hc : n + [t].count .leftBracket = m + [t].count .rightBracket) :
    Covered n (t :: ts) ↔ (t = .suppress → 0 < n) ∧ Covered m ts := by
  constructor
  · refine fun h => ⟨?_, ?_⟩
    · rintro rfl
      exact h [] ts rfl
    · rintro before after rfl
      have hb := h (t :: before) after rfl
      rw [← List.singleton_append, List.count_append, List.count_append] at hb
      omega
  · rintro ⟨ht, h⟩ before after he
    cases before with
    | nil =>
        cases he
        exact ht rfl
    | cons u before =>
        cases he
        have hb := h before after rfl
        rw [← List.singleton_append, List.count_append, List.count_append]
        omega

/-- In one more pair of brackets every `suppress` is covered. -/
theorem Closes.covered {n : Nat} {ts : List Token} (h : Closes n ts) :
    Covered (n + 1) (ts ++ [.rightBracket]) := by
  induction h with
  | nil => exact (covered_cons_iff (by rfl)).mpr ⟨by simp, covered_nil 0⟩
  | opening _ ih => exact (covered_cons_iff rfl).mpr ⟨by simp, ih⟩
  | closing _ ih => exact (covered_cons_iff rfl).mpr ⟨by simp, ih⟩
  | @other n t ts ht _ ih =>
      obtain ⟨hl, hr⟩ := count_singleton_of_not_isBracket ht
      exact (covered_cons_iff (by rw [hl, hr])).mpr ⟨fun _ => Nat.succ_pos n, ih⟩

theorem eq_append_of_splitTerminator {n : Nat} {ts value after : List Token}
    (h : splitTerminator n ts = some (value, after)) : ts = value ++ .suppress :: after := by
  induction ts generalizing n value with
  | nil => cases h
  | cons t ts ih =>
      cases t with
      | suppress =>
          cases n with
          | zero =>
              cases h
              rfl
          | succ n =>
              obtain ⟨us, rfl, hu⟩ := map_cons_eq_some_iff.mp h
              rw [ih hu, List.cons_append]
      | identifier | leftBracket | rightBracket | action | assign =>
          obtain ⟨us, rfl, hu⟩ := map_cons_eq_some_iff.mp h
          rw [ih hu, List.cons_append]

theorem splitTerminator_cons {n m : Nat} {t : Token} (ts : List Token)
    (hc : n + [t].count .leftBracket = m + [t].count .rightBracket) (ht : t = .suppress → 0 < n) :
    splitTerminator n (t :: ts) = (splitTerminator m ts).map fun p => (t :: p.1, p.2) := by
  cases t with
  | suppress =>
      obtain ⟨k, rfl⟩ := Nat.exists_eq_add_of_lt (ht rfl)
      obtain rfl : _ = m := hc
      rw [Nat.zero_add]
      rfl
  | rightBracket =>
      obtain rfl : n = m + 1 := hc
      rfl
  | leftBracket | identifier | action | assign =>
      obtain rfl : _ = m := hc
      rfl

/-- A token before a value changes nothing about whether the cut is made right after the value. -/
theorem splitTerminator_cons_iff {n m : Nat} {t : Token} {value after : List Token}
    (hc : n + [t].count .leftBracket = m + [t].count .rightBracket)
    (h : splitTerminator m (value ++ .suppress :: after) = some (value, after) ↔ Covered m value) :
    splitTerminator n (t :: value ++ .suppress :: after) = some (t :: value, after) ↔
      Covered n (t :: value) := by
  rw [covered_cons_iff hc, List.cons_append]
  by_cases ht : t = .suppress → 0 < n
  · rw [splitTerminator_cons _ hc ht, map_cons_eq_some_iff, and_iff_right ht, ← h]
    simp
  · obtain ⟨rfl, hn⟩ := Classical.not_imp.mp ht
    obtain rfl := Nat.eq_zero_of_not_pos hn
    exact iff_of_false (by rintro ⟨⟩) fun hv => ht hv.1

/-- Where the brackets of a value close, the cut is made right after it if its terminators are
covered, and earlier if they are not. -/
theorem splitTerminator_append_iff {n : Nat} {value : List Token} (h : Closes n value)
    (after : List Token) :
    splitTerminator n (value ++ .suppress :: after) = some (value, after) ↔ Covered n value := by
  induction h with
  | nil => exact iff_of_true rfl (covered_nil 0)
  | opening _ ih | closing _ ih => exact splitTerminator_cons_iff rfl ih
  | @other n t ts ht _ ih =>
      obtain ⟨hl, hr⟩ := count_singleton_of_not_isBracket ht
      exact splitTerminator_cons_iff (by rw [hl, hr]) ih

/-- A list is cut at its first terminator outside of brackets. -/
theorem splitTerminator_eq_some_iff {n : Nat} {ts value after : List Token}
    (h : Closes n value) :
    splitTerminator n ts = some (value, after) ↔
      ts = value ++ .suppress :: after ∧ Covered n value := by
  rw [← splitTerminator_append_iff h after]
  constructor
  · intro hs
    obtain rfl := eq_append_of_splitTerminator hs
    exact ⟨rfl, hs⟩
  · rintro ⟨rfl, hs⟩
    exact hs

end ChatBot.Token
