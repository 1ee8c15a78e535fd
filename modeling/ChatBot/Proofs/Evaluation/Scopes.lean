import Mathlib.Data.List.Induction
import ChatBot.Proofs.Evaluation.Plain

/-!
# Scopes are snapshots

A level of an expression sees the variables that its parent had when the level was entered, whatever
is bound on the parent, or on levels further out, later on.

* `ScopeAct` is what one can do with any number of scopes, and `Scope.made` the scopes that come of
  it.
* `Scoping` is a way to keep variables.  Two of them answer alike when one is a view of the other
  (`Scoping.answers_map`).
* `Scope.snapshots`: what a look at a name answers, in terms of what was done before; and chains of
  scopes answer like flat copies.
-/

namespace ChatBot

/-- What is done with scopes.  They are numbered in the order in which they are made. -/
inductive ScopeAct where
  /-- Makes a scope without variables. -/
  | new
  /-- Makes a level inside a scope. -/
  | child (parent : Nat)
  /-- Binds a name in a scope. -/
  | insert (scope : Nat) (name value : String)
  /-- Looks a name up in a scope. -/
  | look (scope : Nat) (name : String)

/-- What looking up `name` answers. -/
def lookAnswer (name : String) : Option String → Except EvalError String
  | some value => .ok value
  | none => .error (.unboundVariable name)

/-! ### Ways to keep variables -/

/-- A way to keep the variables of levels. -/
structure Scoping (α : Type) where
  /-- No variables. -/
  empty : α
  /-- What a level inside another one begins with. -/
  child : α → α
  /-- Binds a name. -/
  insert : α → String → String → α
  /-- The value of a name. -/
  lookup : String → α → Option String

namespace Scoping

variable {α β : Type}

/-- Scopes after something was done.  Where there is no such scope, nothing happens. -/
def after (k : Scoping α) (scopes : List α) : ScopeAct → List α
  | .new => scopes ++ [k.empty]
  | .child parent => scopes ++ (scopes[parent]?.map k.child).toList
  | .insert scope name value => scopes.modify scope fun s => k.insert s name value
  | .look _ _ => scopes

/-- What is answered. -/
def answer? (k : Scoping α) (scopes : List α) : ScopeAct → Option (Except EvalError String)
  | .look scope name => scopes[scope]?.map fun s => lookAnswer name (k.lookup name s)
  | _ => none

/-- All that is answered in the course of several acts. -/
def answers (k : Scoping α) (scopes : List α) : List ScopeAct → List (Except EvalError String)
  | [] => []
  | act :: acts => (k.answer? scopes act).toList ++ k.answers (k.after scopes act) acts

/-- What is kept one way can be seen as kept the other way. -/
structure Views (f : α → β) (k : Scoping α) (k' : Scoping β) : Prop where
  empty : f k.empty = k'.empty
  child : ∀ s, f (k.child s) = k'.child (f s)
  insert : ∀ s name value, f (k.insert s name value) = k'.insert (f s) name value
  lookup : ∀ s name, k'.lookup name (f s) = k.lookup name s

section

variable {f : α → β} {k : Scoping α} {k' : Scoping β}

theorem Views.after_map (h : Views f k k') (scopes : List α) (act : ScopeAct) :
    k'.after (scopes.map f) act = (k.after scopes act).map f := by
  cases act with
  | new => simp [after, h.empty]
  | child parent =>
      cases hp : scopes[parent]? with
      | none => simp [after, hp]
      | some s => simp [after, hp, h.child]
  | insert scope name value =>
      refine List.ext_getElem? fun i => ?_
      simp only [after, List.getElem?_modify, List.getElem?_map]
      by_cases hi : scope = i
      · cases scopes[i]? <;> simp [hi, h.insert]
      · cases scopes[i]? <;> simp [hi]
  | look scope name => rfl

theorem Views.answer?_map (h : Views f k k') (scopes : List α) (act : ScopeAct) :
    k'.answer? (scopes.map f) act = k.answer? scopes act := by
  cases act with
  | look scope name =>
      simp only [answer?, List.getElem?_map, Option.map_map]
      exact Option.map_congr fun s _ => by simp [h.lookup]
  | new | child | insert => rfl

/-- **What is only seen in another way answers alike**, whatever is done. -/
theorem answers_map (h : Views f k k') (scopes : List α) (acts : List ScopeAct) :
    k'.answers (scopes.map f) acts = k.answers scopes acts := by
  induction acts generalizing scopes with
  | nil => rfl
  | cons act acts ih => rw [answers, answers, h.answer?_map, h.after_map, ih]

end

end Scoping

/-- Scopes as they are, with a chain of parents. -/
def Scoping.chains : Scoping Scope := ⟨.empty, .child, .insert, Scope.lookup⟩

/-- One map for each level.  A level begins with a copy of its parent's. -/
def Scoping.copies : Scoping Plain.Variables :=
  ⟨fun _ => none, id, fun vars name value => Function.update vars name (some value),
    fun name vars => vars name⟩

theorem Scoping.views_flat : Views Scope.flat chains copies where
  empty := rfl
  child _ := rfl
  insert s name value := Scope.flat_insert s name value
  lookup _ _ := rfl

namespace Scope

/-! ### What was done -/

/-- The scopes that come of several acts. -/
def made (acts : List ScopeAct) : List Scope := acts.foldl Scoping.chains.after []

/-- The value that an act binds `name` to in the scope `n`. -/
def bound? (n : Nat) (name : String) : ScopeAct → Option String
  | .insert scope other value => if scope = n ∧ other = name then some value else none
  | _ => none

/-- The value that `name` was bound to in the scope `n` most recently. -/
def latest (n : Nat) (name : String) (acts : List ScopeAct) : Option String :=
  (acts.filterMap (bound? n name)).getLast?

theorem made_concat (acts : List ScopeAct) (act : ScopeAct) :
    made (acts ++ [act]) = Scoping.chains.after (made acts) act := by
  simp [made, List.foldl_append]

theorem latest_concat (n : Nat) (name : String) (acts : List ScopeAct) (act : ScopeAct) :
    latest n name (acts ++ [act]) = (bound? n name act).or (latest n name acts) := by
  rw [latest, List.filterMap_append]
  cases hb : bound? n name act with
  | none => simp [hb, latest]
  | some value => simp [hb]

/-- What is bound in a scope is what it sees first. -/
theorem lookup_insert_eq_or (s : Scope) (n : Nat) (name value other : String) :
    (s.insert name value).own.lookup other =
        (bound? n other (.insert n name value)).or (s.own.lookup other) ∧
      (s.insert name value).lookup other =
        (bound? n other (.insert n name value)).or (s.lookup other) := by
  have hcons (own : Bindings) : ((name, value) :: own).lookup other =
      (bound? n other (.insert n name value)).or (own.lookup other) := by
    by_cases h : name = other
    · simp [bound?, h]
    · have hb : (other == name) = false := by simpa using Ne.symm h
      simp [bound?, List.lookup_cons, h, hb]
  cases s with
  | root own => exact ⟨hcons own, hcons own⟩
  | inside parent own =>
      refine ⟨hcons own, ?_⟩
      rw [insert, lookup, lookup, hcons, Option.or_assoc]

/-- What a scope sees from the beginning that is made by an act. -/
inductive Begins (scopes : List Scope) : ScopeAct → (String → Option String) → Prop where
  | new : Begins scopes .new fun _ => none
  | child {p : Nat} {parent : Scope} (hp : scopes[p]? = some parent) :
      Begins scopes (.child p) fun name => parent.lookup name

/-- A scope sees what it was told since it began, and else what it began with. -/
def Recalls (s : Scope) (n : Nat) (after : List ScopeAct) (seen : String → Option String) : Prop :=
  ∀ name, s.own.lookup name = latest n name after ∧
    s.lookup name = (latest n name after).or (seen name)

theorem recalls_empty (n : Nat) : empty.Recalls n [] fun _ => none :=
  fun _ => ⟨rfl, rfl⟩

theorem recalls_child (parent : Scope) (n : Nat) :
    parent.child.Recalls n [] fun name => parent.lookup name :=
  fun _ => ⟨rfl, rfl⟩

section

variable {s : Scope} {n : Nat} {acts after : List ScopeAct} {seen : String → Option String}

theorem Recalls.insert (h : s.Recalls n after seen) (name value : String) :
    (s.insert name value).Recalls n (after ++ [.insert n name value]) seen := by
  intro other
  obtain ⟨hown, hlookup⟩ := lookup_insert_eq_or s n name value other
  rw [hown, hlookup, latest_concat, (h other).1, (h other).2, Option.or_assoc]
  exact ⟨rfl, rfl⟩

/-- What is done to others is not seen. -/
theorem Recalls.concat (h : s.Recalls n after seen) {act : ScopeAct}
    (ha : ∀ name value, act ≠ .insert n name value) : s.Recalls n (after ++ [act]) seen := by
  intro name
  have hb : bound? n name act = none := by
    cases act with
    | insert scope other value =>
        refine if_neg fun hs => ?_
        exact ha other value (by rw [hs.1])
    | new | child | look => rfl
  rw [latest_concat, hb]
  exact h name

/-- Scopes that there are stay as they are, but for what is bound in them. -/
theorem getElem?_made_concat {act : ScopeAct} (hn : n < (made acts).length)
    (ha : ∀ name value, act ≠ .insert n name value) :
    (made (acts ++ [act]))[n]? = (made acts)[n]? := by
  rw [made_concat]
  cases act with
  | new | child => exact List.getElem?_append_left hn
  | insert scope name value =>
      have hs : scope ≠ n := by
        rintro rfl
        exact ha name value rfl
      simp [Scoping.after, hs]
  | look => rfl

/-- A scope that there was not before has just been made. -/
theorem begins_of_made_concat {act : ScopeAct} (hn : (made acts).length ≤ n)
    (hs : (made (acts ++ [act]))[n]? = some s) :
    n = (made acts).length ∧ ∃ seen, Begins (made acts) act seen ∧ s.Recalls n [] seen := by
  rw [made_concat] at hs
  cases act with
  | new =>
      rw [Scoping.after, List.getElem?_append_right hn, List.getElem?_singleton] at hs
      split at hs
      · cases hs
        exact ⟨by omega, _, .new, recalls_empty n⟩
      · cases hs
  | child p =>
      rw [Scoping.after, List.getElem?_append_right hn] at hs
      cases hp : (made acts)[p]? with
      | none => simp [hp] at hs
      | some parent =>
          rw [hp, Option.map_some, Option.toList_some, List.getElem?_singleton] at hs
          split at hs
          · cases hs
            exact ⟨by omega, _, .child hp, recalls_child parent n⟩
          · cases hs
  | insert scope name value =>
      have hlt := (List.getElem?_eq_some_iff.mp hs).1
      rw [Scoping.after, List.length_modify] at hlt
      omega
  | look scope name =>
      have hlt := (List.getElem?_eq_some_iff.mp hs).1
      rw [Scoping.after] at hlt
      omega

/-- Every scope was made at some time, and recalls what it began with and what it was told since. -/
theorem exists_begins (acts : List ScopeAct) (hs : (made acts)[n]? = some s) :
    ∃ before act after seen, acts = before ++ act :: after ∧ n = (made before).length ∧
      Begins (made before) act seen ∧ s.Recalls n after seen := by
  induction acts using List.reverseRecOn generalizing s with
  | nil => cases hs
  | append_singleton acts act ih =>
      rcases Nat.lt_or_ge n (made acts).length with hlt | hge
      · obtain ⟨s₀, hs₀⟩ : ∃ s₀, (made acts)[n]? = some s₀ := ⟨_, List.getElem?_eq_getElem hlt⟩
        obtain ⟨before, made', after, seen, rfl, hn, hb, hr⟩ := ih hs₀
        refine ⟨before, made', after ++ [act], seen, by simp, hn, hb, ?_⟩
        by_cases ha : ∃ name value, act = .insert n name value
        · obtain ⟨name, value, rfl⟩ := ha
          rw [made_concat, Scoping.after, List.getElem?_modify_eq, hs₀] at hs
          cases hs
          exact hr.insert name value
        · have ha' : ∀ name value, act ≠ .insert n name value :=
            fun name value he => ha ⟨name, value, he⟩
          rw [getElem?_made_concat hlt ha', hs₀] at hs
          cases hs
          exact hr.concat ha'
      · obtain ⟨hn, seen, hb, hr⟩ := begins_of_made_concat hge hs
        exact ⟨acts, act, [], seen, rfl, hn, hb, hr⟩

end

/-- **Scopes are snapshots.**  Whatever is done with any number of scopes, a name has in a scope the
value that it was bound to there most recently; else the one that it had in the parent when the
scope was made; and where it had none it is unbound.  What is done to other scopes does not show.
So all that is ever answered is what would be answered if each scope had a copy of its own of
everything that its parent could see. -/
theorem snapshots (acts : List ScopeAct) :
    (∀ n s, (made acts)[n]? = some s → ∃ before act after seen,
      acts = before ++ act :: after ∧ n = (made before).length ∧ Begins (made before) act seen ∧
      ∀ name, s.own.lookup name = latest n name after ∧
        s.lookup name = (latest n name after).or (seen name) ∧
        (lookAnswer name (s.lookup name) = .error (.unboundVariable name) ↔
          latest n name after = none ∧ seen name = none)) ∧
    (∀ act n, n < (made acts).length → (∀ name value, act ≠ .insert n name value) →
      (made (acts ++ [act]))[n]? = (made acts)[n]?) ∧
    Scoping.chains.answers [] acts = Scoping.copies.answers [] acts := by
  refine ⟨fun n s hs => ?_, fun act n hn ha => getElem?_made_concat hn ha, ?_⟩
  · obtain ⟨before, act, after, seen, hacts, hn, hb, hr⟩ := exists_begins acts hs
    refine ⟨before, act, after, seen, hacts, hn, hb, fun name => ?_⟩
    obtain ⟨hown, hlookup⟩ := hr name
    refine ⟨hown, hlookup, ?_⟩
    rw [hlookup, ← Option.or_eq_none_iff]
    cases (latest n name after).or (seen name) <;> simp [lookAnswer]
  · exact (Scoping.answers_map Scoping.views_flat [] acts).symm

/-- A child does not see what its parent is told later, nor the parent what the child is told; a
grandchild sees what the child could see. -/
example : Scoping.chains.answers [] [.new, .insert 0 "x" "1", .child 0, .insert 0 "x" "2",
    .insert 1 "y" "3", .child 1, .insert 0 "z" "4", .look 0 "x", .look 1 "x", .look 2 "x",
    .look 2 "y", .look 0 "y", .look 2 "z"] =
    [.ok "2", .ok "1", .ok "1", .ok "3", .error (.unboundVariable "y"),
      .error (.unboundVariable "z")] := rfl

end Scope

end ChatBot
