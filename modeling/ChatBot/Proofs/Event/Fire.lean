import Mathlib.Data.List.Forall2
import Mathlib.Data.List.Perm.Subperm
import ChatBot.Proofs.Event.Hearings
import ChatBot.Proofs.Event.Register

/-!
# Whoever runs on a fire declares what was fired

The names that a callback declares are compared with those of its event once, when the callback
subscribes or when the event is created, and then never again; a fire compares the payload with the
event alone.  That is enough: in every register that a history of changes leads to, all who listen
to an event declare the names of its schema (`Register.Fitted`), and the schema declares none twice.

* `Schema.Matches.perm`: against a schema without repetitions, as many names and the same ones are
  the same names in another order.
* `Callback.RunsOnDeclared` says of a callback's turn that its parts ran on the names they declare.
* `Host.fire_safe`: on a fire that is not refused this is so in all turns, and a fire is refused for
  its payload exactly if the names differ, before anything has run.
-/

namespace ChatBot

/-- The payload has the names of the schema and no others. -/
def Payload.Carries (p : Payload) (s : Schema) : Prop := ∀ k, k ∈ p.keys ↔ k ∈ s.params

/-- A schema that matches one without repetitions declares the same names in some order. -/
theorem Schema.Matches.perm {s t : Schema} (h : s.Matches t) (ht : t.params.Nodup) :
    s.params.Perm t.params := by
  have hsub : t.params ⊆ s.params := fun p hp => (h.1 p).mpr hp
  exact ((List.subperm_of_subset ht hsub).perm_of_length_le (Nat.le_of_eq h.2)).symm

theorem Payload.Carries.of_matches {p : Payload} {s t : Schema} (h : p.Carries t)
    (hs : s.Matches t) : p.Carries s :=
  fun k => (h k).trans (hs.1 k).symm

/-! ### Registers in which everyone fits -/

/-- No schema declares a name twice, and everyone who listens to an event declares its names. -/
def Register.Fitted {κ : Type} (r : Register κ) : Prop :=
  ∀ name s, (r name).schema = some s → s.params.Nodup ∧ ∀ c ∈ (r name).callbacks, c.Fits s

namespace Register

variable {κ : Type}

theorem fitted_empty : (empty : Register κ).Fitted := by
  intro name s hs
  cases hs

theorem Fitted.file {r : Register κ} (hr : r.Fitted) {name : String} {l : Listing κ}
    (hl : ∀ s, l.schema = some s → s.params.Nodup ∧ ∀ c ∈ l.callbacks, c.Fits s) :
    (r.file name l).Fitted := by
  intro other s hs
  rw [Register.file] at hs ⊢
  by_cases hne : other = name
  · subst hne
    rw [Function.update_self] at hs ⊢
    exact hl s hs
  · rw [Function.update_of_ne hne] at hs ⊢
    exact hr other s hs

/-- A change that is not refused lets nobody in who does not fit. -/
theorem Fitted.edit [DecidableEq κ] {r : Register κ} (hr : r.Fitted) {e : HostEdit κ}
    (hn : ∀ error, ¬ r.Refuses e error) : (r.edit e).Fitted := by
  cases e with
  | create name s =>
      refine hr.file fun t ht => ?_
      cases ht
      refine ⟨List.nodup_iff_count_le_one.mpr fun p => ?_, fun c hc p hp => ?_⟩
      · exact Nat.le_of_lt_succ (Nat.lt_of_not_le fun h => hn _ (.repeated h))
      · by_contra hm
        exact hn _ (.listed hc hp hm)
  | destroy name =>
      exact hr.file fun t ht => (by cases ht)
  | subscribe name c =>
      refine hr.file fun t ht => ⟨(hr name t ht).1, fun d hd => ?_⟩
      rcases List.mem_append.mp hd with hd | hd
      · exact (hr name t ht).2 d hd
      · rw [List.mem_singleton] at hd
        subst hd
        intro p hp
        by_contra hm
        exact hn _ (.unfit ht hp hm)
  | unsubscribe name c =>
      exact hr.file fun t ht =>
        ⟨(hr name t ht).1, fun d hd => (hr name t ht).2 d (List.mem_of_mem_erase hd)⟩

end Register

namespace Host

variable {κ : Type}

theorem fitted_afterEdits [DecidableEq κ] {h : Host κ} (hs : h.Separated) (hf : h.register.Fitted)
    (es : List (HostEdit κ)) : (h.afterEdits es).register.Fitted := by
  induction es generalizing h with
  | nil => exact hf
  | cons e es ih =>
      refine ih (hs.afterEdit e) ?_
      rcases edit_refines hs e with ⟨h', he, hn, -, hr⟩ | ⟨error, he, -⟩
      · rw [afterEdit, he]
        exact hr ▸ hf.edit hn
      · rw [afterEdit, he]
        exact hf

/-! ### Payloads -/

theorem missing_nil_extra_nil_iff (s : Schema) (p : Payload) :
    s.missing p = [] ∧ s.extra p = [] ↔ p.Carries s := by
  have he : s.extra p = [] ↔ p.keys.filter (!s.params.contains ·) = [] := by
    rw [Schema.extra, ← List.length_eq_zero_iff, List.length_mergeSort, List.length_eq_zero_iff]
  rw [he, Schema.missing, List.filter_eq_nil_iff, List.filter_eq_nil_iff, Payload.Carries]
  simp only [Bool.not_eq_true', Bool.not_eq_false, List.contains_iff_mem]
  exact ⟨fun ⟨h₁, h₂⟩ k => ⟨h₂ k, h₁ k⟩, fun h => ⟨fun k => (h k).mpr, fun k => (h k).mp⟩⟩

theorem extra_sorted (s : Schema) (p : Payload) :
    (s.extra p).Pairwise (· ≤ ·) ∧ (s.extra p).Perm (p.keys.filter (!s.params.contains ·)) := by
  refine ⟨?_, List.mergeSort_perm _ _⟩
  have trans (a b c : String) (hab : decide (a ≤ b) = true) (hbc : decide (b ≤ c) = true) :
      decide (a ≤ c) = true :=
    decide_eq_true (String.le_trans (of_decide_eq_true hab) (of_decide_eq_true hbc))
  have total (a b : String) : (decide (a ≤ b) || decide (b ≤ a)) = true := by
    simpa using String.le_total a b
  exact (List.pairwise_mergeSort trans total _).imp fun hab => of_decide_eq_true hab

/-- Who is considered on a fire, and what a payload is refused for. -/
theorem listeners_eq {h : Host κ} {name : String} {s : Schema} (hs : h.schema? name = some s)
    (p : Payload) :
    (p.Carries s ∧ h.listeners name p = .ok (h.active name)) ∨
    ¬ p.Carries s ∧
      h.listeners name p = .error (.payloadMismatch name (s.missing p) (s.extra p)) := by
  obtain ⟨event, he, rfl⟩ := Option.map_eq_some_iff.mp hs
  rw [listeners, he, ← missing_nil_extra_nil_iff]
  by_cases hc : event.schema.missing p = [] ∧ event.schema.extra p = []
  · refine .inl ⟨hc, ?_⟩
    simp only [hc, and_self, if_true, active, he, Option.elim_some]
  · exact .inr ⟨hc, if_neg hc⟩

theorem listeners_ofMessage {h : Host κ} {name : String}
    (hs : h.schema? name = some Schema.ofMessage) (m : Message) :
    h.listeners name (Payload.ofMessage m) = .ok (h.active name) := by
  rcases listeners_eq hs (Payload.ofMessage m) with ⟨-, hl⟩ | ⟨hn, -⟩
  · exact hl
  · exact absurd (fun _ => Iff.rfl) hn

theorem listeners_ok {h : Host κ} {name : String} {p : Payload} {cs : List (Callback κ)}
    (hl : h.listeners name p = .ok cs) :
    ∃ s, h.schema? name = some s ∧ p.Carries s ∧ cs = h.active name := by
  cases hs : h.schema? name with
  | none =>
      rw [schema?, Option.map_eq_none_iff] at hs
      rw [listeners, hs] at hl
      cases hl
  | some s =>
      rcases listeners_eq hs p with ⟨hc, he⟩ | ⟨-, he⟩
      · rw [he] at hl
        cases hl
        exact ⟨s, rfl, hc, rfl⟩
      · rw [he] at hl
        cases hl

end Host

/-! ### What is run -/

namespace Conduct

variable {κ σ : Type} {d : Conduct κ σ} {payload : Payload}

/-- A part of `c` other than its target, called on what was fired. -/
def IsCallOf (payload : Payload) (c : Callback κ) (call : Call κ) : Prop :=
  call.payload = payload ∧
    ∃ p, (c.prefilter = some p ∨ c.preprocessor = some p) ∧ p.ident = call.part

theorem Hears.isCallOf {c : Callback κ} {w w' : σ} {h : Hearing κ} (hc : d.Hears payload c w h w') :
    ∀ call ∈ h.calls, IsCallOf payload c call := by
  have judges {calls : List (Call κ)} {verdict : Bool} {w' : σ}
      (hj : d.Judges payload c w calls verdict w') : ∀ call ∈ calls, IsCallOf payload c call := by
    cases hj with
    | free hn => exact fun _ hm => absurd hm List.not_mem_nil
    | asked hp hv => exact fun _ hm => List.mem_singleton.mp hm ▸ ⟨rfl, _, .inl hp, rfl⟩
  cases hc with
  | rejected hj => exact judges hj
  | passed hj hs =>
      intro call hm
      rcases List.mem_append.mp hm with hj' | hs'
      · exact judges hj call hj'
      · cases hs with
        | same hn => exact absurd hs' List.not_mem_nil
        | adapted hq ha => exact List.mem_singleton.mp hs' ▸ ⟨rfl, _, .inr hq, rfl⟩

/-- A target that is to run is given what was fired, unless a preprocessor adapted it. -/
theorem Hears.target {c : Callback κ} {w w' : σ} {h : Hearing κ} {l : Launch κ}
    (hc : d.Hears payload c w h w') (hl : h.launch? = some l) :
    l.target = c.target.ident ∧ (c.preprocessor = none → l.payload = payload) := by
  cases hc with
  | rejected hj => cases hl
  | passed hj hs =>
      cases hl
      refine ⟨rfl, fun hn => ?_⟩
      cases hs with
      | same _ => rfl
      | adapted hq ha => exact absurd (hn.symm.trans hq) (Option.some_ne_none _).symm

theorem target_of_consider {c : Callback κ} {w : σ} {l : Launch κ}
    (hl : (d.consider payload c w).1 = some l) :
    l.target = c.target.ident ∧ (c.preprocessor = none → l.payload = payload) := by
  obtain ⟨h, w', hh, hd, -⟩ := d.exists_hears payload c w []
  rw [hd] at hl
  exact hh.target hl

theorem Hearings.target {cs : List (Callback κ)} {w w' : σ} {hs : List (Hearing κ)}
    (h : d.Hearings payload cs w hs w') : ∀ l ∈ launched hs, ∃ c ∈ cs,
      l.target = c.target.ident ∧ (c.preprocessor = none → l.payload = payload) := by
  induction h with
  | nil => exact fun _ hm => absurd hm List.not_mem_nil
  | cons hc _ ih =>
      intro l hm
      obtain ⟨h, hmem, hl⟩ := List.mem_filterMap.mp hm
      rcases List.mem_cons.mp hmem with rfl | hmem
      · exact ⟨_, List.mem_cons_self, hc.target hl⟩
      · obtain ⟨c, hcs, ht⟩ := ih l (List.mem_filterMap.mpr ⟨h, hmem, hl⟩)
        exact ⟨c, List.mem_cons_of_mem _ hcs, ht⟩

/-- What a fire runs: the callbacks that are active have their turns.  A fire that is refused runs
nothing and changes nothing. -/
theorem fire_recorded (d : Conduct κ σ) (canRun : Bool) (h : Host κ) (event : String)
    (payload : Payload) (w : σ) :
    ∃ hearings : List (Hearing κ),
      d.recorded.fire canRun h event payload (w, []) =
        ((d.fire canRun h event payload w).1, (d.fire canRun h event payload w).2,
          called hearings) ∧
      (∀ launches, (d.fire canRun h event payload w).1 = .ok launches →
        launches = launched hearings ∧
          d.Hearings payload (h.active event) w hearings (d.fire canRun h event payload w).2) ∧
      ∀ e, (d.fire canRun h event payload w).1 = .error e →
        hearings = [] ∧ (d.fire canRun h event payload w).2 = w := by
  cases hl : h.listeners event payload with
  | error e => exact ⟨[], by simp [fire, hl, called]⟩
  | ok cs =>
      obtain ⟨s, -, -, rfl⟩ := Host.listeners_ok hl
      cases canRun with
      | false => exact ⟨[], by simp [fire, hl, called]⟩
      | true =>
          obtain ⟨hearings, w', hh, hd, hr⟩ := d.exists_hearings payload (h.active event) w []
          refine ⟨hearings, ?_, fun launches hf => ?_, fun e hf => ?_⟩
          · simp only [fire, hl, if_true, hr, hd, List.nil_append]
          · simp only [fire, hl, if_true, hd, Except.ok.injEq] at hf ⊢
            exact ⟨hf.symm, hh⟩
          · simp [fire, hl] at hf

/-- The targets that a fire is to run, and what they are given. -/
theorem fire_ok {d : Conduct κ σ} {canRun : Bool} {h : Host κ} {event : String}
    {payload : Payload} {w : σ} {launches : List (Launch κ)}
    (hf : (d.fire canRun h event payload w).1 = .ok launches) :
    ∃ s, h.schema? event = some s ∧ payload.Carries s ∧
      ∀ l ∈ launches, ∃ c ∈ h.active event,
        l.target = c.target.ident ∧ (c.preprocessor = none → l.payload = payload) := by
  cases hl : h.listeners event payload with
  | error e => simp [fire, hl] at hf
  | ok cs =>
      obtain ⟨s, hs, hp, rfl⟩ := Host.listeners_ok hl
      cases canRun with
      | false => simp [fire, hl] at hf
      | true =>
          obtain ⟨hearings, w', hh, hd, -⟩ := d.exists_hearings payload (h.active event) w []
          simp only [fire, hl, if_true, hd, Except.ok.injEq] at hf
          subst hf
          exact ⟨s, hs, hp, hh.target⟩

/-- When a fire is refused for its payload, and with which names. -/
theorem fire_mismatch_iff (d : Conduct κ σ) (canRun : Bool) {h : Host κ} {event : String}
    {s : Schema} (hs : h.schema? event = some s) (payload : Payload) (w : σ)
    (missing extra : List String) :
    (d.fire canRun h event payload w).1 = .error (.payloadMismatch event missing extra) ↔
      ¬ payload.Carries s ∧ missing = s.missing payload ∧ extra = s.extra payload := by
  rcases Host.listeners_eq hs payload with ⟨hc, hl⟩ | ⟨hc, hl⟩
  · cases canRun <;> simp [fire, hl, hc]
  · simp [fire, hl, hc, eq_comm]

end Conduct

/-! ### Turns on declared names -/

/-- In its turn a callback ran its prefilter and its preprocessor on the names that these declare.
If its target is to run, then on the names that it declares, unless a preprocessor adapts them. -/
structure Callback.RunsOnDeclared {κ : Type} (c : Callback κ) (h : Hearing κ) : Prop where
  calls : ∀ call ∈ h.calls, ∃ p, (c.prefilter = some p ∨ c.preprocessor = some p) ∧
    p.ident = call.part ∧ call.payload.Carries p.schema
  target : ∀ l, h.launch? = some l → l.target = c.target.ident ∧
    (c.preprocessor = none → l.payload.Carries c.target.schema)

namespace Conduct

variable {κ σ : Type} {d : Conduct κ σ} {payload : Payload} {s : Schema}

theorem Hears.runsOnDeclared {c : Callback κ} {w w' : σ} {h : Hearing κ}
    (hc : d.Hears payload c w h w') (hf : c.Fits s) (hp : payload.Carries s) :
    c.RunsOnDeclared h where
  calls call hm := by
    obtain ⟨hpay, p, hpart, hid⟩ := hc.isCallOf call hm
    refine ⟨p, hpart, hid, hpay ▸ hp.of_matches ?_⟩
    rcases hpart with h | h
    · exact hf ("prefilter", p) (by simp [Callback.parts, h])
    · exact hf ("preprocessor", p) (by simp [Callback.parts, h])
  target l hl := by
    obtain ⟨ht, hpay⟩ := hc.target hl
    refine ⟨ht, fun hn => hpay hn ▸ hp.of_matches ?_⟩
    exact hf ("target", c.target) (by simp [Callback.parts])

/-- Who fits runs on declared names in its own turn. -/
theorem Hearings.runsOnDeclared {cs : List (Callback κ)} {w w' : σ} {hs : List (Hearing κ)}
    (h : d.Hearings payload cs w hs w') (hf : ∀ c ∈ cs, c.Fits s) (hp : payload.Carries s) :
    List.Forall₂ Callback.RunsOnDeclared cs hs := by
  induction h with
  | nil => exact .nil
  | cons hc _ ih =>
      rw [List.forall_mem_cons] at hf
      exact .cons (hc.runsOnDeclared hf.1 hp) (ih hf.2)

end Conduct

namespace Host

variable {κ σ : Type} [DecidableEq κ]

/-- **A fire runs everything on the names it declares.**  After any history of changes, a fire that
is not refused gives each active callback its turn, in order.  The parts of these callbacks declare
the schema of the event in some order and no name twice, and the payload has exactly these names; in
each turn the parts of the callback ran on them, and what is to run is what came of these turns.  A
fire is refused for its payload exactly if the names differ; it then tells what is missing in the
order of the schema and what is superfluous in increasing order.  A refused fire has run nothing. -/
theorem fire_safe (d : Conduct κ σ) (canRun : Bool) (es : List (HostEdit κ)) (event : String)
    (payload : Payload) (w : σ) :
    ∃ hearings : List (Hearing κ),
      d.recorded.fire canRun (empty.afterEdits es) event payload (w, []) =
        ((d.fire canRun (empty.afterEdits es) event payload w).1,
          (d.fire canRun (empty.afterEdits es) event payload w).2, Conduct.called hearings) ∧
      (∀ launches, (d.fire canRun (empty.afterEdits es) event payload w).1 = .ok launches →
        launches = Conduct.launched hearings ∧
          d.Hearings payload ((empty.afterEdits es).active event) w hearings
            (d.fire canRun (empty.afterEdits es) event payload w).2 ∧
          List.Forall₂ Callback.RunsOnDeclared ((empty.afterEdits es).active event) hearings ∧
          ∃ s, (empty.afterEdits es).schema? event = some s ∧ s.params.Nodup ∧
            payload.Carries s ∧ ∀ c ∈ (empty.afterEdits es).active event, ∀ p ∈ c.parts,
              p.2.schema.params.Perm s.params ∧ p.2.schema.params.Nodup) ∧
      (∀ s, (empty.afterEdits es).schema? event = some s →
        ((∃ missing extra, (d.fire canRun (empty.afterEdits es) event payload w).1 =
            .error (.payloadMismatch event missing extra)) ↔ ¬ payload.Carries s) ∧
        ∀ missing extra, (d.fire canRun (empty.afterEdits es) event payload w).1 =
            .error (.payloadMismatch event missing extra) →
          missing = s.params.filter (!payload.keys.contains ·) ∧ extra.Pairwise (· ≤ ·) ∧
            extra.Perm (payload.keys.filter (!s.params.contains ·))) ∧
      ∀ e, (d.fire canRun (empty.afterEdits es) event payload w).1 = .error e →
        hearings = [] ∧ (d.fire canRun (empty.afterEdits es) event payload w).2 = w := by
  have hr : (empty.afterEdits es : Host κ).register.Fitted :=
    fitted_afterEdits separated_empty Register.fitted_empty es
  have hfit {s : Schema} (hs : (empty.afterEdits es).schema? event = some s) :
      ∀ c ∈ (empty.afterEdits es).active event, c.Fits s :=
    fun c hc => (hr event s hs).2 c (List.mem_append_left _ hc)
  obtain ⟨hearings, he, hok, herr⟩ := d.fire_recorded canRun (empty.afterEdits es) event payload w
  refine ⟨hearings, he, fun launches hl => ?_, fun s hs => ⟨?_, fun missing extra hm => ?_⟩, herr⟩
  · obtain ⟨hlaunched, hheard⟩ := hok launches hl
    obtain ⟨s, hs, hp, -⟩ := Conduct.fire_ok hl
    have hnd : s.params.Nodup := (hr event s hs).1
    refine ⟨hlaunched, hheard, hheard.runsOnDeclared (hfit hs) hp, s, hs, hnd, hp, ?_⟩
    intro c hc p hpm
    have hperm := (hfit hs c hc p hpm).perm hnd
    exact ⟨hperm, hperm.nodup_iff.mpr hnd⟩
  · exact ⟨fun ⟨missing, extra, h⟩ => ((d.fire_mismatch_iff canRun hs payload w _ _).mp h).1,
      fun h => ⟨_, _, (d.fire_mismatch_iff canRun hs payload w _ _).mpr ⟨h, rfl, rfl⟩⟩⟩
  · obtain ⟨-, rfl, rfl⟩ := (d.fire_mismatch_iff canRun hs payload w _ _).mp hm
    exact ⟨rfl, extra_sorted s payload⟩

end Host

end ChatBot
