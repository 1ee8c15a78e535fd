import ChatBot.Event.Dispatch

/-!
# Turns of callbacks

What comes of it when callbacks have their turns: which parts are called and on what, which targets
are to run, and what the parts make of the world.

* `Conduct.recorded` writes down each run of a prefilter or a preprocessor, so that one can say what
  a fire ran.
* `Conduct.Hears` is what comes of one callback's turn, and `Conduct.Hearings` what comes of the
  turns of several.
* `Conduct.exists_hearings`: dispatching is this, with what was called on the record.
-/

namespace ChatBot

/-- A prefilter or a preprocessor that was run, and on what. -/
structure Call (κ : Type) where
  part : κ
  payload : Payload

/-- What comes of a callback's turn: the parts that were called, and the target that is to run. -/
structure Hearing (κ : Type) where
  calls : List (Call κ)
  launch? : Option (Launch κ)

namespace Conduct

variable {κ σ : Type} {d : Conduct κ σ} {payload : Payload} {c : Callback κ}

/-- The same conduct, with each run of a part written down. -/
def recorded (d : Conduct κ σ) : Conduct κ (σ × List (Call κ)) where
  passes part payload w :=
    let (passed, s) := d.passes part payload w.1
    (passed, s, w.2 ++ [⟨part, payload⟩])
  adapt part payload w :=
    let (adapted, s) := d.adapt part payload w.1
    (adapted, s, w.2 ++ [⟨part, payload⟩])

/-- The prefilter of a callback is asked about what was fired.  Without one everything passes. -/
inductive Judges (d : Conduct κ σ) (payload : Payload) (c : Callback κ) (w : σ) :
    List (Call κ) → Bool → σ → Prop where
  | free (hn : c.prefilter = none) : Judges d payload c w [] true w
  | asked {p : Part κ} {verdict : Bool} {w' : σ} (hp : c.prefilter = some p)
      (hv : d.passes p.ident payload w = (verdict, w')) :
      Judges d payload c w [⟨p.ident, payload⟩] verdict w'

/-- The preprocessor of a callback adapts what was fired.  Without one that is what is given. -/
inductive Supplies (d : Conduct κ σ) (payload : Payload) (c : Callback κ) (w : σ) :
    List (Call κ) → Payload → σ → Prop where
  | same (hn : c.preprocessor = none) : Supplies d payload c w [] payload w
  | adapted {q : Part κ} {given : Payload} {w' : σ} (hq : c.preprocessor = some q)
      (ha : d.adapt q.ident payload w = (given, w')) :
      Supplies d payload c w [⟨q.ident, payload⟩] given w'

/-- A callback has its turn.  If it is rejected, its preprocessor is not called. -/
inductive Hears (d : Conduct κ σ) (payload : Payload) (c : Callback κ) (w : σ) :
    Hearing κ → σ → Prop where
  | rejected {calls : List (Call κ)} {w' : σ} (hj : d.Judges payload c w calls false w') :
      Hears d payload c w ⟨calls, none⟩ w'
  | passed {calls calls' : List (Call κ)} {given : Payload} {w₁ w' : σ}
      (hj : d.Judges payload c w calls true w₁) (hs : d.Supplies payload c w₁ calls' given w') :
      Hears d payload c w ⟨calls ++ calls', some ⟨c.target.ident, given⟩⟩ w'

/-- Callbacks have their turns, each one once and in order.  All of them hear of the same payload. -/
inductive Hearings (d : Conduct κ σ) (payload : Payload) :
    List (Callback κ) → σ → List (Hearing κ) → σ → Prop where
  | nil {w : σ} : Hearings d payload [] w [] w
  | cons {c : Callback κ} {cs : List (Callback κ)} {w w₁ w' : σ} {h : Hearing κ}
      {hs : List (Hearing κ)} (hc : d.Hears payload c w h w₁)
      (ht : Hearings d payload cs w₁ hs w') : Hearings d payload (c :: cs) w (h :: hs) w'

/-- The targets that are to run after these turns. -/
def launched (hs : List (Hearing κ)) : List (Launch κ) := hs.filterMap (·.launch?)

/-- What was called in these turns. -/
def called (hs : List (Hearing κ)) : List (Call κ) := hs.flatMap (·.calls)

theorem exists_hears (d : Conduct κ σ) (payload : Payload) (c : Callback κ) (w : σ)
    (log : List (Call κ)) : ∃ h w', d.Hears payload c w h w' ∧
      d.consider payload c w = (h.launch?, w') ∧
      d.recorded.consider payload c (w, log) = (h.launch?, w', log ++ h.calls) := by
  -- a callback that has passed
  have passed {calls : List (Call κ)} {w₁ : σ} (hj : d.Judges payload c w calls true w₁) :
      ∃ calls' given w', d.Hears payload c w ⟨calls ++ calls', some ⟨c.target.ident, given⟩⟩ w' ∧
        c.preprocessor.elim (payload, w₁) (fun q => d.adapt q.ident payload w₁) = (given, w') ∧
        c.preprocessor.elim (payload, w₁, log ++ calls)
          (fun q => d.recorded.adapt q.ident payload (w₁, log ++ calls)) =
          (given, w', log ++ (calls ++ calls')) := by
    cases hq : c.preprocessor with
    | none => exact ⟨[], payload, w₁, .passed hj (.same hq), rfl, by simp⟩
    | some q =>
        exact ⟨_, _, _, .passed hj (.adapted hq rfl), rfl, by simp [recorded]⟩
  cases hp : c.prefilter with
  | none =>
      obtain ⟨calls', given, w', hh, ha, hr⟩ := passed (.free hp)
      refine ⟨_, w', hh, ?_, ?_⟩
      · rw [consider, hp]
        simp only [Option.elim_none, if_true, ha]
      · rw [List.append_nil] at hr
        rw [consider, hp]
        simp only [Option.elim_none, if_true, hr]
  | some p =>
      obtain ⟨verdict, w₁, hv⟩ : ∃ verdict w₁, d.passes p.ident payload w = (verdict, w₁) :=
        ⟨_, _, rfl⟩
      have hvr : d.recorded.passes p.ident payload (w, log) =
          (verdict, w₁, log ++ [⟨p.ident, payload⟩]) := by simp [recorded, hv]
      cases verdict with
      | false =>
          refine ⟨_, w₁, .rejected (.asked hp hv), ?_, ?_⟩
          · rw [consider, hp]
            simp [hv]
          · rw [consider, hp]
            simp [hvr]
      | true =>
          obtain ⟨calls', given, w', hh, ha, hr⟩ := passed (.asked hp hv)
          refine ⟨_, w', hh, ?_, ?_⟩
          · rw [consider, hp]
            simp only [Option.elim_some, hv, if_true, ha]
          · rw [consider, hp]
            simp only [Option.elim_some, hvr, if_true, hr]

theorem exists_hearings (d : Conduct κ σ) (payload : Payload) (cs : List (Callback κ)) (w : σ)
    (log : List (Call κ)) : ∃ hs w', d.Hearings payload cs w hs w' ∧
      d.dispatch payload cs w = (launched hs, w') ∧
      d.recorded.dispatch payload cs (w, log) = (launched hs, w', log ++ called hs) := by
  induction cs generalizing w log with
  | nil => exact ⟨[], w, .nil, rfl, by simp [dispatch, launched, called]⟩
  | cons c cs ih =>
      obtain ⟨h, w₁, hc, he, hr⟩ := d.exists_hears payload c w log
      obtain ⟨hs, w', ht, het, hrt⟩ := ih w₁ (log ++ h.calls)
      refine ⟨h :: hs, w', .cons hc ht, ?_, ?_⟩
      · rw [dispatch, he]
        simp only [het, launched]
        cases hl : h.launch? <;> simp [hl]
      · rw [dispatch, hr]
        simp only [hrt, launched, called]
        cases hl : h.launch? <;> simp [hl]

end Conduct

end ChatBot
