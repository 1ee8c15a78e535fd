import Mathlib.Data.List.Induction
import ChatBot.Bot.State

/-!
# A ticker on a clock

What is written down about a ticker tells when it was started and stopped, and when it has ticked.

* `Ticker.IsDue` is when a tick is due, by what is written down.
* `Ticker.Ticks` is a ticker that is never late.  There is a start behind every one of its ticks
  (`Ticker.Ticks.exists_start`), and no tick is left out (`Ticker.Ticks.of_isDue`).
-/

namespace ChatBot

/-! ### What is written down -/

namespace Ticker

/-- What can be written down about a ticker. -/
inductive Mark where
  /-- Someone starts it, whether or not it is started already. -/
  | start
  /-- Someone stops it, whether or not it is started. -/
  | stop
  /-- It ticks. -/
  | tick
  deriving DecidableEq

/-- What happens to a ticker, and when. -/
structure Entry where
  time : Nat
  mark : Mark
  deriving DecidableEq

/-- Since when the ticker runs after what is written down, if it ran since `since` before. -/
def Entry.since (since : Option Nat) (e : Entry) : Option Nat :=
  match e.mark with
  | .start => some (since.getD e.time)
  | .stop => none
  | .tick => since

/-- Since when a ticker runs, if it does: since the first start after the last stop. -/
def since (log : List Entry) : Option Nat := log.foldl Entry.since none

/-- A tick is due a number of intervals after a start, if the ticker did not run when it was started
and has not been stopped until then. -/
def IsDue (p : Nat) (log : List Entry) (time : Nat) : Prop :=
  ∃ before first after k, log = before ++ ⟨first, .start⟩ :: after ∧ since before = none ∧
    1 ≤ k ∧ time = first + k * p ∧ ∀ e ∈ after, e.mark = .stop → time < e.time

section Log

variable {log before after : List Entry} {e e' : Entry} {first : Nat}

@[simp] theorem since_nil : since [] = none := rfl

@[simp] theorem since_concat (log : List Entry) (e : Entry) :
    since (log ++ [e]) = e.since (since log) := by simp [since]

/-- Where an entry stands after one more was made. -/
theorem concat_eq_split (h : log ++ [e] = before ++ e' :: after) :
    (after = [] ∧ log = before ∧ e = e') ∨
      ∃ after', after = after' ++ [e] ∧ log = before ++ e' :: after' := by
  rcases List.eq_nil_or_concat after with rfl | ⟨after', last, rfl⟩
  · obtain ⟨hl, he⟩ := List.append_inj' h rfl
    exact .inl ⟨rfl, hl, List.singleton_inj.mp he⟩
  · rw [List.concat_eq_append, ← List.cons_append, ← List.append_assoc] at h
    obtain ⟨hl, he⟩ := List.append_inj' h rfl
    exact .inr ⟨after', by rw [List.concat_eq_append, List.singleton_inj.mp he], hl⟩

/-- A ticker runs since a start, if it did not run before and was not stopped after that. -/
theorem since_eq_some_iff :
    since log = some first ↔ ∃ before after, log = before ++ ⟨first, .start⟩ :: after ∧
      since before = none ∧ ∀ e ∈ after, e.mark ≠ .stop := by
  induction log using List.reverseRecOn with
  | nil => simp
  | append_singleton log e ih =>
      rw [since_concat]
      constructor
      · intro h
        obtain ⟨time, mark⟩ := e
        cases mark with
        | stop => cases h
        | tick =>
            obtain ⟨before, after, rfl, hb, ha⟩ := ih.mp h
            exact ⟨before, after ++ [⟨time, .tick⟩], by simp, hb,
              List.forall_mem_append.mpr ⟨ha, by simp⟩⟩
        | start =>
            cases hs : since log with
            | none =>
                rw [hs] at h
                cases h
                exact ⟨log, [], rfl, hs, by simp⟩
            | some s =>
                rw [hs] at h
                obtain ⟨before, after, rfl, hb, ha⟩ := ih.mp (hs.trans h)
                exact ⟨before, after ++ [⟨time, .start⟩], by simp, hb,
                  List.forall_mem_append.mpr ⟨ha, by simp⟩⟩
      · rintro ⟨before, after, hlog, hb, ha⟩
        rcases concat_eq_split hlog with ⟨rfl, rfl, rfl⟩ | ⟨after', rfl, rfl⟩
        · rw [hb]
          rfl
        · have hs := ih.mpr ⟨before, after', rfl, hb, fun e he => ha e (by simp [he])⟩
          have he : e.mark ≠ .stop := ha e (by simp)
          rw [hs, Entry.since]
          split
          · rfl
          · contradiction
          · rfl

end Log

/-! ### A ticker on a clock -/

/-- A ticker with the interval `p`: what is written down about it, what time it is, and when it
ticks next.  It is not late. -/
inductive Ticks (p : Nat) : List Entry → Nat → Option Nat → Prop where
  | begin (now : Nat) : Ticks p [] now none
  | start {log : List Entry} {now : Nat} {next : Option Nat} (h : Ticks p log now next) :
      Ticks p (log ++ [⟨now, .start⟩]) now (if p = 0 then none else some (next.getD (now + p)))
  | stop {log : List Entry} {now : Nat} {next : Option Nat} (h : Ticks p log now next) :
      Ticks p (log ++ [⟨now, .stop⟩]) now none
  | tick {log : List Entry} {now : Nat} (h : Ticks p log now (some now)) :
      Ticks p (log ++ [⟨now, .tick⟩]) now (some (now + p))
  | wait {log : List Entry} {now now' : Nat} {next : Option Nat} (h : Ticks p log now next)
      (hle : now ≤ now') (hd : ∀ time, next = some time → now' ≤ time) : Ticks p log now' next

namespace Ticks

variable {p now : Nat} {log before after : List Entry} {next : Option Nat}

/-- Without an interval there are no ticks. -/
theorem eq_none_of_zero (hp : p = 0) (h : Ticks p log now next) :
    next = none ∧ ∀ e ∈ log, e.mark ≠ .tick := by
  induction h with
  | begin => exact ⟨rfl, by simp⟩
  | start h ih => exact ⟨if_pos hp, by simpa [or_imp, forall_and] using ih.2⟩
  | stop h ih => exact ⟨rfl, by simpa [or_imp, forall_and] using ih.2⟩
  | tick h ih => exact absurd ih.1 (by simp)
  | wait h hle hd ih => exact ih

/-- Nothing is written down before its time. -/
theorem le_now (h : Ticks p log now next) : ∀ e ∈ log, e.time ≤ now := by
  induction h with
  | begin => simp
  | start h ih | stop h ih | tick h ih => simpa [or_imp, forall_and] using ih
  | wait h hle hd ih => exact fun e he => Nat.le_trans (ih e he) hle

theorem le_next (h : Ticks p log now next) {time : Nat} (hn : next = some time) : now ≤ time := by
  induction h generalizing time with
  | begin | stop => cases hn
  | @start log now next h ih =>
      split at hn
      · cases hn
      · cases next with
        | none => exact Option.some.inj hn ▸ Nat.le_add_right _ _
        | some next => exact Option.some.inj hn ▸ ih rfl
  | tick h ih => exact Option.some.inj hn ▸ Nat.le_add_right _ _
  | wait h hle hd ih => exact hd time hn

/-- A ticker runs if there is a next tick, and this is less than an interval away from the last
multiple of the interval. -/
theorem phase (hp : p ≠ 0) (h : Ticks p log now next) :
    (since log = none ∧ next = none) ∨
      ∃ first c, since log = some first ∧ next = some (first + (c + 1) * p) ∧
        first + c * p ≤ now := by
  induction h with
  | begin => exact .inl ⟨rfl, rfl⟩
  | @start log now next h ih =>
      rw [since_concat, if_neg hp]
      rcases ih with ⟨hs, rfl⟩ | ⟨first, c, hs, rfl, hl⟩
      · exact .inr ⟨now, 0, by rw [hs]; rfl, by simp, by simp⟩
      · exact .inr ⟨first, c, by rw [hs]; rfl, rfl, hl⟩
  | stop h ih => exact .inl ⟨since_concat _ _, rfl⟩
  | @tick log now h ih =>
      rw [since_concat]
      rcases ih with ⟨-, hn⟩ | ⟨first, c, hs, hn, -⟩
      · cases hn
      · rw [Option.some.inj hn]
        exact .inr ⟨first, c + 1, hs, by rw [Nat.add_mul (c + 1), Nat.one_mul, Nat.add_assoc],
          Nat.le_refl _⟩
  | wait h hle hd ih =>
      refine ih.imp_right ?_
      rintro ⟨first, c, hs, hn, hl⟩
      exact ⟨first, c, hs, hn, Nat.le_trans hl hle⟩

/-- What is still to come of the ticks since a start does not come before the next tick. -/
theorem exists_next_le (hp : p ≠ 0) (h : Ticks p log now next) {first k : Nat}
    (hs : since log = some first)
    (ht : now < first + k * p ∨ first + k * p = now ∧ next = some now) :
    ∃ time, next = some time ∧ time ≤ first + k * p := by
  rcases h.phase hp with ⟨hs', -⟩ | ⟨first', c, hs', hn, hl⟩
  · rw [hs] at hs'
    cases hs'
  · obtain rfl : first = first' := Option.some.inj (hs.symm.trans hs')
    rcases ht with hlt | ⟨he, hn'⟩
    · refine ⟨_, hn, ?_⟩
      have hck : c < k := by
        refine Nat.lt_of_mul_lt_mul_right (a := p) ?_
        omega
      exact Nat.add_le_add_left (Nat.mul_le_mul_right p hck) first
    · exact ⟨now, hn', Nat.le_of_eq he.symm⟩

/-- There is a start behind every tick. -/
theorem exists_start (hp : p ≠ 0) (h : Ticks p log now next) {time : Nat}
    (ht : log = before ++ ⟨time, .tick⟩ :: after) :
    ∃ first k, since before = some first ∧ 1 ≤ k ∧ time = first + k * p := by
  induction h generalizing after with
  | begin => simp at ht
  | start h ih | stop h ih =>
      rcases concat_eq_split ht with ⟨-, -, he⟩ | ⟨after', -, hlog⟩
      · cases he
      · exact ih hlog
  | @tick log now h ih =>
      rcases concat_eq_split ht with ⟨-, rfl, he⟩ | ⟨after', -, hlog⟩
      · cases he
        rcases h.phase hp with ⟨-, hn⟩ | ⟨first, c, hs, hn, -⟩
        · cases hn
        · exact ⟨first, c + 1, hs, Nat.le_add_left _ _, Option.some.inj hn⟩
      · exact ih hlog
  | wait h hle hd ih => exact ih ht

/-- No tick is left out. -/
theorem of_isDue (hp : p ≠ 0) (h : Ticks p log now next) {time : Nat} (hd : IsDue p log time)
    (ht : time < now ∨ time = now ∧ next ≠ some now) : ⟨time, .tick⟩ ∈ log := by
  obtain ⟨before, first, after, k, hlog, hb, hk, htime, hstop⟩ := hd
  have hlater : first < time := by
    have := Nat.mul_pos hk (Nat.pos_of_ne_zero hp)
    omega
  induction h generalizing after with
  | begin => simp at hlog
  | @start log now next h ih =>
      rcases concat_eq_split hlog with ⟨-, -, he⟩ | ⟨after', rfl, hlog'⟩
      · cases he
        omega
      · refine List.mem_append_left _ (ih ?_ after' hlog' fun e he => hstop e (by simp [he]))
        refine ht.imp_right fun ⟨he, hne⟩ => ⟨he, ?_⟩
        rintro rfl
        simp [hp] at hne
  | @stop log now next h ih =>
      rcases concat_eq_split hlog with ⟨-, -, he⟩ | ⟨after', rfl, hlog'⟩
      · cases he
      · -- it was stopped after the tick
        have hlt : time < now := hstop ⟨now, .stop⟩ (by simp) rfl
        exact List.mem_append_left _
          (ih (.inl hlt) after' hlog' fun e he => hstop e (by simp [he]))
  | @tick log now h ih =>
      rcases concat_eq_split hlog with ⟨-, -, he⟩ | ⟨after', rfl, hlog'⟩
      · cases he
      · rcases ht with hlt | ⟨rfl, -⟩
        · exact List.mem_append_left _
            (ih (.inl hlt) after' hlog' fun e he => hstop e (by simp [he]))
        · simp
  | @wait log now now' next h hle hd ih =>
      by_cases hpast : time < now ∨ time = now ∧ next ≠ some now
      · exact ih hpast after hlog hstop
      · -- nobody waits beyond the next tick, which is this one or one before it
        exfalso
        have hcome : now < time ∨ time = now ∧ next = some now := by
          rw [not_or, Nat.not_lt] at hpast
          rcases Nat.lt_or_eq_of_le hpast.1 with hlt | heq
          · exact .inl hlt
          · exact .inr ⟨heq.symm, by_contra fun hn => hpast.2 ⟨heq.symm, hn⟩⟩
        have hs : since log = some first := by
          refine since_eq_some_iff.mpr ⟨before, after, hlog, hb, fun e he hm => ?_⟩
          have hlt := hstop e he hm
          have hle' := h.le_now e (by simp [hlog, he])
          omega
        obtain ⟨n, rfl, hn⟩ := h.exists_next_le hp hs (htime ▸ hcome)
        have hwaited := hd n rfl
        rcases ht with hlt | ⟨rfl, hne⟩
        · omega
        · exact hne (congrArg some (by omega))

/-- A tick that was ticked is over when the next one is due. -/
theorem lt_next (hp : p ≠ 0) (h : Ticks p log now next) {time due : Nat}
    (ht : ⟨time, .tick⟩ ∈ log) (hn : next = some due) : time < due := by
  induction h generalizing due with
  | begin => simp at ht
  | stop => cases hn
  | @start log now next h ih =>
      have ht : ⟨time, .tick⟩ ∈ log := by simpa using ht
      rw [if_neg hp] at hn
      cases next with
      | none =>
          have hle := h.le_now _ ht
          obtain rfl := Option.some.inj hn
          exact Nat.lt_of_le_of_lt hle (Nat.lt_add_of_pos_right (Nat.pos_of_ne_zero hp))
      | some next => exact ih ht hn
  | @tick log now h ih =>
      have hlt : now < due :=
        Option.some.inj hn ▸ Nat.lt_add_of_pos_right (Nat.pos_of_ne_zero hp)
      rcases List.mem_append.mp ht with ht | ht
      · exact Nat.lt_trans (ih ht rfl) hlt
      · cases List.mem_singleton.mp ht
        exact hlt
  | wait h hle hd ih => exact ih ht hn

/-- No tick is ticked twice. -/
theorem count_le_one (hp : p ≠ 0) (h : Ticks p log now next) (time : Nat) :
    log.count ⟨time, .tick⟩ ≤ 1 := by
  induction h with
  | begin => simp
  | start h ih | stop h ih => simpa [List.count_append, List.count_singleton] using ih
  | @tick log now h ih =>
      rw [List.count_append, List.count_singleton]
      by_cases he : time = now
      · have hnone : log.count ⟨now, .tick⟩ = 0 :=
          List.count_eq_zero.mpr fun ht => Nat.lt_irrefl _ (h.lt_next hp ht rfl)
        simp [he, hnone]
      · simpa [Ne.symm he] using ih
  | wait h hle hd ih => exact ih

/-- What is written down is in order. -/
theorem sorted (h : Ticks p log now next) : log.Pairwise fun e e' => e.time ≤ e'.time := by
  induction h with
  | begin => exact .nil
  | start h ih | stop h ih | tick h ih =>
      exact List.pairwise_append.mpr ⟨ih, List.pairwise_singleton _ _, by simpa using h.le_now⟩
  | wait h hle hd ih => exact ih

/-- Every tick is due. -/
theorem isDue (hp : p ≠ 0) (h : Ticks p log now next) {time : Nat} (ht : ⟨time, .tick⟩ ∈ log)
    (hstop : ⟨time, .stop⟩ ∉ log) : IsDue p log time := by
  obtain ⟨pre, post, hlog⟩ := List.append_of_mem ht
  obtain ⟨first, k, hs, hk, htime⟩ := h.exists_start hp hlog
  obtain ⟨before, after, rfl, hb, ha⟩ := since_eq_some_iff.mp hs
  refine ⟨before, first, after ++ ⟨time, .tick⟩ :: post, k, by simp [hlog], hb, hk, htime, ?_⟩
  intro e he hm
  rcases List.mem_append.mp he with he | he
  · exact absurd hm (ha e he)
  · rcases List.mem_cons.mp he with rfl | he
    · cases hm
    · -- a stop that was written down after the tick, and not at the same time
      have hsorted := h.sorted
      rw [hlog, List.pairwise_append, List.pairwise_cons] at hsorted
      refine Nat.lt_of_le_of_ne (hsorted.2.1.1 e he) fun heq => hstop ?_
      obtain ⟨t, mark⟩ := e
      cases hm
      cases heq
      simp [hlog, he]

end Ticks

end Ticker

end ChatBot
