import ChatBot.Schedule
import Mathlib.Data.List.Basic

/-!
# What becomes of a schedule

Numbers are given out in order, and what has ended has ended.  This is so for every program whose
tasks do no more in their turns than start others and keep track of them.

* `Schedule.Precedes` is what a schedule may turn into, and `Schedule.AtOnce` what it may turn into
  while the clock stands still.
* `Schedule.Adds` is what a task may do in its turn, and `Program.IsForward` are the programs whose
  tasks do no more; `Schedule.precedes_await` is what this means for someone who waits.
* `Schedule.Evolves.mem_or`: between its turns a task is left alone.
* `Schedule.over_await` and `Schedule.now_await_le`: for what one waits, and for how long.
* `Schedule.waits_of_step?_eq_none` and `Schedule.exists_nextDue_le`: when the clock moves, and how
  far.
-/

namespace ChatBot

/-- Tasks with the numbers that they are given, the first one `first`. -/
def numbered {τ : Type} (first : Nat) (ts : List τ) : List (Nat × τ) :=
  (ts.zipIdx first).map Prod.swap

section Numbered

variable {τ : Type} {first : Nat}

theorem numbered_append (ts us : List τ) :
    numbered first (ts ++ us) = numbered first ts ++ numbered (first + ts.length) us := by
  rw [numbered, List.zipIdx_append, List.map_append, numbered, numbered]

theorem numbers_numbered (ts : List τ) :
    (numbered first ts).map (·.1) = List.range' first ts.length := by
  rw [numbered, List.map_map, ← List.zipIdx_map_snd]
  rfl

theorem le_of_mem_numbered {ts : List τ} {t : Nat × τ} (ht : t ∈ numbered first ts) :
    first ≤ t.1 ∧ t.1 < first + ts.length ∧ t.2 ∈ ts := by
  obtain ⟨⟨a, i⟩, hp, rfl⟩ := List.mem_map.mp ht
  have hm := List.mem_zipIdx hp
  exact ⟨hm.1, hm.2.1, hm.2.2 ▸ List.getElem_mem _⟩

end Numbered

namespace Schedule

variable {σ τ : Type} {s s' s'' : Schedule σ τ} {id : Nat}

/-! ### New tasks -/

theorem spawnAll_eq (s : Schedule σ τ) (ts : List τ) :
    s.spawnAll ts = (List.range' s.spawned ts.length,
      { s with spawned := s.spawned + ts.length, ready := s.ready ++ numbered s.spawned ts }) := by
  induction ts generalizing s with
  | nil => simp [spawnAll, numbered]
  | cons t ts ih =>
      rw [spawnAll]
      dsimp only
      rw [ih, spawn]
      dsimp only
      rw [List.length_cons, List.range'_succ, List.append_assoc, Nat.add_right_comm]
      rfl

theorem spawnAll_state (s : Schedule σ τ) (ts : List τ) : (s.spawnAll ts).2.state = s.state := by
  rw [spawnAll_eq]

theorem spawnAll_now (s : Schedule σ τ) (ts : List τ) : (s.spawnAll ts).2.now = s.now := by
  rw [spawnAll_eq]

theorem spawnAll_append (s : Schedule σ τ) (ts us : List τ) :
    (s.spawnAll (ts ++ us)).2 = ((s.spawnAll ts).2.spawnAll us).2 := by
  induction ts generalizing s with
  | nil => rfl
  | cons t ts ih => exact ih _

theorem le_spawned_spawnAll (s : Schedule σ τ) (ts : List τ) :
    s.spawned ≤ (s.spawnAll ts).2.spawned := by
  rw [spawnAll_eq]
  exact Nat.le_add_right _ _

/-! ### What tasks can do -/

theorem isLive_iff : s.isLive id = true ↔ id ∈ (s.ready ++ s.parked).map (·.1) := by
  simp [isLive]

/-- A number that was given out between `s` and `s'`. -/
def IsNew (s s' : Schedule σ τ) (id : Nat) : Prop := s.spawned ≤ id ∧ id < s'.spawned

theorem IsNew.trans (h : s.IsNew s' id) (hle : s'.spawned ≤ s''.spawned) : s.IsNew s'' id :=
  ⟨h.1, Nat.lt_of_lt_of_le h.2 hle⟩

theorem IsNew.of_le (h : s'.IsNew s'' id) (hle : s.spawned ≤ s'.spawned) : s.IsNew s'' id :=
  ⟨Nat.le_trans hle h.1, h.2⟩

/-- New tasks have new numbers.  A task that has ended does not come back, and one that is not
tracked is not tracked later. -/
structure Precedes (s s' : Schedule σ τ) : Prop where
  spawned : s.spawned ≤ s'.spawned
  live : ∀ id, s'.isLive id = true → s.isLive id = true ∨ s.IsNew s' id
  tracked : ∀ id ∈ s'.tracked, id ∈ s.tracked ∨ s.IsNew s' id

/-- The same, and no time goes by. -/
structure AtOnce (s s' : Schedule σ τ) : Prop extends Precedes s s' where
  now : s'.now = s.now

theorem Precedes.refl (s : Schedule σ τ) : s.Precedes s :=
  ⟨Nat.le_refl _, fun _ => .inl, fun _ => .inl⟩

theorem Precedes.trans (h : s.Precedes s') (h' : s'.Precedes s'') : s.Precedes s'' where
  spawned := Nat.le_trans h.spawned h'.spawned
  live id hid := by
    rcases h'.live id hid with hid | hn
    · exact (h.live id hid).imp_right fun hn => hn.trans h'.spawned
    · exact .inr (hn.of_le h.spawned)
  tracked id hid := by
    rcases h'.tracked id hid with hid | hn
    · exact (h.tracked id hid).imp_right fun hn => hn.trans h'.spawned
    · exact .inr (hn.of_le h.spawned)

/-- What has ended has ended. -/
theorem Precedes.isLive_eq_false (h : s.Precedes s') (hid : id < s.spawned)
    (hl : s.isLive id = false) : s'.isLive id = false := by
  rw [← Bool.not_eq_true] at hl ⊢
  intro hl'
  exact (h.live id hl').elim hl fun hn => Nat.not_lt_of_le hn.1 hid

/-- Only those are tracked that were started. -/
theorem Precedes.tracked_lt (h : s.Precedes s') (hs : ∀ id ∈ s.tracked, id < s.spawned) :
    ∀ id ∈ s'.tracked, id < s'.spawned := fun id hid =>
  (h.tracked id hid).elim (fun hid => Nat.lt_of_lt_of_le (hs id hid) h.spawned) And.right

theorem AtOnce.refl (s : Schedule σ τ) : s.AtOnce s := ⟨.refl s, rfl⟩

theorem AtOnce.trans (h : s.AtOnce s') (h' : s'.AtOnce s'') : s.AtOnce s'' :=
  ⟨h.toPrecedes.trans h'.toPrecedes, h'.now.trans h.now⟩

/-- Tasks are taken away, or put in another order. -/
theorem AtOnce.of_subset (hspawned : s'.spawned = s.spawned) (hnow : s'.now = s.now)
    (hlive : ∀ id, s'.isLive id = true → s.isLive id = true)
    (htracked : ∀ id ∈ s'.tracked, id ∈ s.tracked) : s.AtOnce s' :=
  ⟨⟨Nat.le_of_eq hspawned.symm, fun id h => .inl (hlive id h), fun id h => .inl (htracked id h)⟩,
    hnow⟩

theorem atOnce_untrack (s : Schedule σ τ) (id : Nat) : s.AtOnce (s.untrack id) :=
  .of_subset rfl rfl (fun _ h => h) fun _ => List.mem_of_mem_erase

theorem atOnce_abort (s : Schedule σ τ) (id : Nat) : s.AtOnce (s.abort id) := by
  refine .of_subset rfl rfl (fun id' h => ?_) fun _ => List.mem_of_mem_erase
  rw [isLive_iff, List.mem_map] at h ⊢
  obtain ⟨t, ht, hid⟩ := h
  simp only [abort, List.mem_append, List.mem_filter] at ht
  exact ⟨t, List.mem_append.mpr (ht.imp And.left And.left), hid⟩

theorem isLive_abort (s : Schedule σ τ) (id : Nat) : (s.abort id).isLive id = false := by
  simp [isLive, abort]

/-! ### What a task may do in its turn -/

/-- New tasks are ready after the others, and some of them are tracked. -/
structure Adds (s s' : Schedule σ τ) : Prop where
  spawned : s.spawned ≤ s'.spawned
  ready : ∃ ts, s'.ready = s.ready ++ ts ∧ ∀ t ∈ ts, s.IsNew s' t.1
  parked : s'.parked = s.parked
  tracked : ∀ id ∈ s'.tracked, id ∈ s.tracked ∨ s.IsNew s' id
  now : s'.now = s.now

/-- Only what tasks share is changed. -/
theorem Adds.of_eq (h : s' = { s with state := s'.state }) : s.Adds s' := by
  rw [h]
  exact ⟨Nat.le_refl _, ⟨[], by simp⟩, rfl, fun _ => .inl, rfl⟩

theorem Adds.refl (s : Schedule σ τ) : s.Adds s := .of_eq rfl

theorem Adds.trans (h : s.Adds s') (h' : s'.Adds s'') : s.Adds s'' where
  spawned := Nat.le_trans h.spawned h'.spawned
  ready := by
    obtain ⟨ts, hr, hts⟩ := h.ready
    obtain ⟨us, hr', hus⟩ := h'.ready
    refine ⟨ts ++ us, by rw [hr', hr, List.append_assoc], fun t ht => ?_⟩
    rcases List.mem_append.mp ht with ht | ht
    · exact (hts t ht).trans h'.spawned
    · exact (hus t ht).of_le h.spawned
  parked := h'.parked.trans h.parked
  tracked id hid := by
    rcases h'.tracked id hid with hid | hn
    · exact (h.tracked id hid).imp_right fun hn => hn.trans h'.spawned
    · exact .inr (hn.of_le h.spawned)
  now := h'.now.trans h.now

/-- Tasks are tracked that were started in the meantime. -/
theorem Adds.track {ids : List Nat} (h : s.Adds s') (hids : ∀ id ∈ ids, s.IsNew s' id) :
    s.Adds (s'.track ids) where
  spawned := h.spawned
  ready := h.ready
  parked := h.parked
  tracked id hid := (List.mem_append.mp hid).elim (h.tracked id) fun hid => .inr (hids id hid)
  now := h.now

theorem adds_spawnAll (s : Schedule σ τ) (ts : List τ) : s.Adds (s.spawnAll ts).2 := by
  rw [spawnAll_eq]
  refine ⟨Nat.le_add_right _ _, ⟨_, rfl, fun t ht => ?_⟩, rfl, fun _ => .inl, rfl⟩
  exact ⟨(le_of_mem_numbered ht).1, (le_of_mem_numbered ht).2.1⟩

theorem Adds.atOnce (h : s.Adds s') : s.AtOnce s' where
  spawned := h.spawned
  live id hid := by
    obtain ⟨ts, hr, hts⟩ := h.ready
    rw [isLive_iff, hr, h.parked, List.mem_map] at hid
    obtain ⟨t, ht, rfl⟩ := hid
    rw [isLive_iff, List.mem_map]
    rw [List.append_assoc, List.mem_append, List.mem_append] at ht
    rcases ht with ht | ht | ht
    · exact .inl ⟨t, List.mem_append_left _ ht, rfl⟩
    · exact .inr (hts t ht)
    · exact .inl ⟨t, List.mem_append_right _ ht, rfl⟩
  tracked := h.tracked
  now := h.now

theorem AtOnce.of_eq (h : s' = { s with state := s'.state }) : s.AtOnce s' := (Adds.of_eq h).atOnce

/-! ### Turns -/

/-- What a turn is. -/
theorem step?_eq_some {p : Program σ τ} (h : s.step? p = some s') :
    ∃ id t rest next s₁, (s.wake p).ready = (id, t) :: rest ∧
      p.poll t { s.wake p with ready := rest } = (next, s₁) ∧
      s' = match next with
        | none => s₁.untrack id
        | some t => { s₁ with parked := s₁.parked ++ [(id, t)] } := by
  rw [step?] at h
  split at h
  · cases h
  · rename_i id t rest hr
    split at h
    · rename_i s₁ hp
      cases h
      exact ⟨id, t, rest, none, s₁, hr, hp, rfl⟩
    · rename_i t' s₁ hp
      cases h
      exact ⟨id, t, rest, some t', s₁, hr, hp, rfl⟩

/-- Whoever is woken was parked. -/
theorem perm_wake (p : Program σ τ) (s : Schedule σ τ) :
    ((s.wake p).ready ++ (s.wake p).parked).Perm (s.ready ++ s.parked) := by
  rw [wake]
  split
  · rw [List.append_assoc]
    exact (List.filter_append_perm (fun t => mayGoOn p s t.2) s.parked).append_left _
  · exact .refl _

theorem tracked_wake (p : Program σ τ) (s : Schedule σ τ) : (s.wake p).tracked = s.tracked := by
  rw [wake]
  split <;> rfl

theorem isLive_wake (p : Program σ τ) (s : Schedule σ τ) (id : Nat) :
    (s.wake p).isLive id = s.isLive id := by
  rw [Bool.eq_iff_iff, isLive_iff, isLive_iff]
  exact ((perm_wake p s).map _).mem_iff

theorem atOnce_wake (p : Program σ τ) (s : Schedule σ τ) : s.AtOnce (s.wake p) := by
  refine .of_subset ?_ ?_ (fun id h => isLive_wake p s id ▸ h) fun id h => ?_
  · rw [wake]
    split <;> rfl
  · rw [wake]
    split <;> rfl
  · rw [wake] at h
    split at h <;> exact h

end Schedule

/-- The tasks of a program do nothing to the schedule but start others and keep track of them. -/
def Program.IsForward {σ τ : Type} (p : Program σ τ) : Prop :=
  ∀ t (s : Schedule σ τ), s.Adds (p.poll t s).2

namespace Schedule

variable {σ τ : Type} {p : Program σ τ} {s s' : Schedule σ τ}

theorem atOnce_step? (hp : p.IsForward) (h : s.step? p = some s') : s.AtOnce s' := by
  obtain ⟨id, t, rest, next, s₁, hready, hpoll, rfl⟩ := step?_eq_some h
  have hwake := atOnce_wake p s
  -- the task that has its turn is live
  have hself : s.isLive id = true := by
    rw [← isLive_wake p, isLive_iff, hready]
    exact List.mem_cons_self
  have hturn : s.AtOnce s₁ := by
    have hbegin : (s.wake p).AtOnce { s.wake p with ready := rest } := by
      refine .of_subset rfl rfl (fun id' h => ?_) fun _ h => h
      rw [isLive_iff] at h ⊢
      rw [hready]
      exact List.mem_cons_of_mem _ h
    have hend := (hp t { s.wake p with ready := rest }).atOnce
    rw [hpoll] at hend
    exact (hwake.trans hbegin).trans hend
  cases next with
  | none => exact hturn.trans (atOnce_untrack s₁ id)
  | some t' =>
      refine ⟨⟨hturn.spawned, fun id' h => ?_, hturn.tracked⟩, hturn.now⟩
      rw [isLive_iff, ← List.append_assoc, List.map_append, List.mem_append] at h
      rcases h with h | h
      · exact hturn.live id' (isLive_iff.mpr h)
      · rw [List.map_singleton, List.mem_singleton] at h
        exact .inl (h ▸ hself)

theorem atOnce_settleWithin (hp : p.IsForward) (turns : Nat) (s : Schedule σ τ) :
    s.AtOnce (s.settleWithin p turns) := by
  induction turns generalizing s with
  | zero => exact .refl s
  | succ turns ih =>
      rw [settleWithin]
      cases h : s.step? p with
      | none => exact .refl s
      | some s' => exact (atOnce_step? hp h).trans (ih s')

/-! ### Tasks between their turns -/

/-- What may happen to a schedule from outside and from inside.  The turns are listed with the tasks
as they were then. -/
inductive Evolves (p : Program σ τ) (s : Schedule σ τ) :
    List (Nat × τ) → Schedule σ τ → Prop where
  | refl : Evolves p s [] s
  | modify {turns : List (Nat × τ)} {s' : Schedule σ τ} (h : Evolves p s turns s') (f : σ → σ) :
      Evolves p s turns (s'.modify f)
  | spawn {turns : List (Nat × τ)} {s' : Schedule σ τ} (h : Evolves p s turns s') (t : τ) :
      Evolves p s turns (s'.spawn t).2
  | jump {turns : List (Nat × τ)} {s' : Schedule σ τ} (h : Evolves p s turns s') (time : Nat) :
      Evolves p s turns (s'.jump time)
  | step {turns rest : List (Nat × τ)} {t : Nat × τ} {s' s'' : Schedule σ τ}
      (h : Evolves p s turns s') (hr : (s'.wake p).ready = t :: rest)
      (hs : s'.step? p = some s'') : Evolves p s (turns ++ [t]) s''

theorem mem_step? (hp : p.IsForward) {t t' : Nat × τ} {rest : List (Nat × τ)}
    (hr : (s.wake p).ready = t' :: rest) (h : s.step? p = some s')
    (ht : t ∈ s.ready ++ s.parked) : t ∈ s'.ready ++ s'.parked ∨ t = t' := by
  obtain ⟨id, a, rest', next, s₁, hready, hpoll, rfl⟩ := step?_eq_some h
  obtain ⟨rfl, rfl⟩ := List.cons.inj (hr.symm.trans hready)
  rw [← (perm_wake p s).mem_iff, hr, List.cons_append, List.mem_cons] at ht
  refine ht.symm.imp_left fun ht => ?_
  have hturn := hp a { s.wake p with ready := rest }
  rw [hpoll] at hturn
  have ht₁ : t ∈ s₁.ready ++ s₁.parked := by
    obtain ⟨ts, hr₁, -⟩ := hturn.ready
    rw [hr₁, hturn.parked, List.append_assoc, List.mem_append, List.mem_append]
    exact (List.mem_append.mp ht).imp_right .inr
  cases next with
  | none => exact ht₁
  | some a' =>
      rw [← List.append_assoc]
      exact List.mem_append_left _ ht₁

/-- **A task is left alone until its turn**, whatever becomes of what the tasks share. -/
theorem Evolves.mem_or {turns : List (Nat × τ)} (h : s.Evolves p turns s') (hp : p.IsForward)
    {t : Nat × τ} (ht : t ∈ s.ready ++ s.parked) : t ∈ s'.ready ++ s'.parked ∨ t ∈ turns := by
  induction h with
  | refl => exact .inl ht
  | modify _ f ih => exact ih
  | spawn _ t' ih =>
      refine ih.imp_left fun ht => ?_
      rw [List.mem_append] at ht ⊢
      exact ht.imp_left (List.mem_append_left _)
  | jump _ time ih => exact ih
  | step _ hr hs ih =>
      rcases ih with ht | ht
      · exact (mem_step? hp hr hs ht).imp_right fun heq => List.mem_append_right _ (by simp [heq])
      · exact .inr (List.mem_append_left _ ht)

/-! ### Waiting -/

theorem precedes_jump (s : Schedule σ τ) (time : Nat) : s.Precedes (s.jump time) :=
  ⟨Nat.le_refl _, fun _ => .inl, fun _ => .inl⟩

theorem precedes_advance (hp : p.IsForward) (span : Nat) (s : Schedule σ τ) :
    s.Precedes (s.advance p span) := by
  rw [advance]
  generalize s.now + span = time
  induction patience generalizing s with
  | zero => exact .refl s
  | succ turns ih =>
      rw [advanceWithin]
      have hs := (atOnce_settleWithin hp patience s).toPrecedes
      have hlast := (hs.trans (precedes_jump _ time)).trans
        (atOnce_settleWithin hp patience _).toPrecedes
      split
      · split
        · exact (hs.trans (precedes_jump _ _)).trans (ih _)
        · exact hlast
      · exact hlast

/-- While one waits, new tasks may be started and tracked, and that is all. -/
theorem precedes_await (hp : p.IsForward) (isOver : Schedule σ τ → Bool) (deadline : Option Nat)
    (s : Schedule σ τ) : s.Precedes (s.await p isOver deadline).2 := by
  rw [await]
  induction patience generalizing s with
  | zero => exact .refl s
  | succ turns ih =>
      rw [awaitWithin]
      have hs := (atOnce_settleWithin hp stretch s).toPrecedes
      split
      · exact .refl s
      · split
        · exact .refl s
        · dsimp only
          split
          · exact hs
          · split
            · exact hs.trans (ih _)
            · split
              · exact hs
              · exact (hs.trans (precedes_jump _ _)).trans (ih _)

/-- Who is done with waiting has got what was waited for. -/
theorem over_await {isOver : Schedule σ τ → Bool} {deadline : Option Nat} :
    (s.await p isOver deadline).1 = true → isOver (s.await p isOver deadline).2 = true := by
  rw [await]
  induction patience generalizing s with
  | zero => exact id
  | succ turns ih =>
      rw [awaitWithin]
      dsimp only
      split
      · exact fun _ => ‹_›
      · split
        · rintro ⟨⟩
        · split
          · exact fun _ => ‹_›
          · split
            · exact ih
            · split
              · rintro ⟨⟩
              · exact ih

theorem le_of_earlier?_eq_some {due : Option Nat} {deadline time : Nat}
    (h : earlier? due (some deadline) = some time) : time ≤ deadline := by
  cases due with
  | none => exact Nat.le_of_eq (Option.some.inj h).symm
  | some due => exact Option.some.inj h ▸ Nat.min_le_right _ _

/-- Nobody waits longer than until the deadline. -/
theorem now_await_le (hp : p.IsForward) (isOver : Schedule σ τ → Bool) {deadline : Nat}
    (hs : s.now ≤ deadline) : (s.await p isOver (some deadline)).2.now ≤ deadline := by
  rw [await]
  induction patience generalizing s with
  | zero => exact hs
  | succ turns ih =>
      rw [awaitWithin]
      have hsettled : (s.settleWithin p stretch).now ≤ deadline :=
        (atOnce_settleWithin hp stretch s).now ▸ hs
      split
      · exact hs
      · split
        · exact hs
        · dsimp only
          split
          · exact hsettled
          · split
            · exact ih hsettled
            · split
              · exact hsettled
              · rename_i time htime
                exact ih (Nat.max_le.mpr ⟨hsettled, le_of_earlier?_eq_some htime⟩)

/-! ### Rest -/

/-- Where nobody has a turn, nobody is ready or may go on. -/
theorem waits_of_step?_eq_none (h : s.step? p = none) :
    s.ready = [] ∧ ∀ t ∈ s.parked, mayGoOn p s t.2 = false := by
  have hr : (s.wake p).ready = [] := by
    rw [step?] at h
    split at h
    · assumption
    · split at h <;> cases h
  rw [wake] at hr
  split at hr
  · rename_i hany
    obtain ⟨t, ht, hmay⟩ := List.any_eq_true.mp hany
    have hwoken := (List.append_eq_nil_iff.mp hr).2
    exact absurd hmay (List.filter_eq_nil_iff.mp hwoken t ht)
  · rename_i hany
    refine ⟨hr, fun t ht => ?_⟩
    rw [← Bool.not_eq_true]
    exact fun hmay => hany (List.any_eq_true.mpr ⟨t, ht, hmay⟩)

theorem exists_earlier?_le {a b : Option Nat} {time : Nat} (h : a = some time ∨ b = some time) :
    ∃ due, earlier? a b = some due ∧ due ≤ time := by
  rcases a with - | a
  · exact ⟨time, h.resolve_left (by simp), Nat.le_refl _⟩
  · rcases b with - | b
    · obtain rfl : a = time := Option.some.inj (h.resolve_right (by simp))
      exact ⟨a, rfl, Nat.le_refl _⟩
    · refine ⟨min a b, rfl, ?_⟩
      rcases h with h | h
      · exact Option.some.inj h ▸ Nat.min_le_left a b
      · exact Option.some.inj h ▸ Nat.min_le_right a b

theorem exists_foldl_earlier?_le {dues : List (Option Nat)} {first : Option Nat} {time : Nat}
    (h : some time ∈ dues ∨ ∃ due, first = some due ∧ due ≤ time) :
    ∃ due, dues.foldl earlier? first = some due ∧ due ≤ time := by
  induction dues generalizing first with
  | nil => exact h.resolve_left List.not_mem_nil
  | cons a dues ih =>
      refine ih ?_
      rw [List.mem_cons] at h
      rcases h with (rfl | h) | ⟨due, rfl, hle⟩
      · exact .inr (exists_earlier?_le (.inr rfl))
      · exact .inl h
      · obtain ⟨due', hd', hle'⟩ := exists_earlier?_le (b := a) (.inl rfl)
        exact .inr ⟨due', hd', Nat.le_trans hle' hle⟩

/-- The next time that someone waits for is not after any that one of them waits for. -/
theorem exists_nextDue_le {t : Nat × τ} (ht : t ∈ s.parked) {time : Nat}
    (hd : p.due t.2 = some time) : ∃ due, s.nextDue p = some due ∧ due ≤ time :=
  exists_foldl_earlier?_le (.inl (List.mem_map.mpr ⟨t, ht, hd⟩))

end Schedule

end ChatBot
