import ChatBot.Bot.Firing
import ChatBot.Proofs.Event.Fire
import ChatBot.Proofs.Schedule
import ChatBot.Rehearsal.Bench

/-!
# A fire takes a snapshot

Who is considered on a fire is settled before anything runs.  Prefilters and preprocessors may do
what they like to the world, the host included: each of them gets what was fired, and what they do to
the host is for later fires.

* `Conduct.fireOn` fires the way it happens: whenever a callback passes, its target is started as a
  task, before the next callback has its turn.  `Rehearsal.Cast.fire_eq_fireOn` and
  `Stage.fire_eq_fireOn` say that benches and bots fire like this.
* `Conduct.fire_is_snapshot`: what a fire considers and starts, and what becomes of it.
-/

namespace ChatBot

namespace Conduct

variable {κ σ τ : Type} {d d' : Conduct κ σ} {payload : Payload}

/-- The parts of `d` and `d'` answer the same, whatever the world is like.  They may do different
things to it. -/
def AnswersLike (d d' : Conduct κ σ) : Prop :=
  ∀ part payload w w', (d.passes part payload w).1 = (d'.passes part payload w').1 ∧
    (d.adapt part payload w).1 = (d'.adapt part payload w').1

theorem AnswersLike.consider_eq (h : d.AnswersLike d') (payload : Payload) (c : Callback κ)
    (w w' : σ) : (d.consider payload c w).1 = (d'.consider payload c w').1 := by
  have adapted (w w' : σ) :
      (c.preprocessor.elim (payload, w) fun q => d.adapt q.ident payload w).1 =
        (c.preprocessor.elim (payload, w') fun q => d'.adapt q.ident payload w').1 := by
    cases c.preprocessor with
    | none => rfl
    | some q => exact (h q.ident payload w w').2
  have judged : (c.prefilter.elim (true, w) fun p => d.passes p.ident payload w).1 =
      (c.prefilter.elim (true, w') fun p => d'.passes p.ident payload w').1 := by
    cases c.prefilter with
    | none => rfl
    | some p => exact (h p.ident payload w w').1
  simp only [consider, judged]
  split
  · exact congrArg (fun given => some (Launch.mk c.target.ident given)) (adapted _ _)
  · rfl

theorem AnswersLike.dispatch_eq (h : d.AnswersLike d') (payload : Payload)
    (cs : List (Callback κ)) (w w' : σ) :
    (d.dispatch payload cs w).1 = (d'.dispatch payload cs w').1 := by
  induction cs generalizing w w' with
  | nil => rfl
  | cons c cs ih =>
      rw [dispatch, dispatch]
      simp only [h.consider_eq payload c w w']
      rw [ih]

/-! ### Fires that start tasks -/

/-- The turns of several callbacks.  Whenever one passes, its target is started. -/
def start (d : Conduct κ σ) (task : Launch κ → τ) (payload : Payload) :
    List (Callback κ) → Schedule σ τ → List Nat × Schedule σ τ
  | [], s => ([], s)
  | c :: cs, s =>
    let (launch?, w) := d.consider payload c s.state
    match launch? with
    | none => d.start task payload cs { s with state := w }
    | some l =>
      let (id, s) := Schedule.spawn { s with state := w } (task l)
      let (ids, s) := d.start task payload cs s
      (id :: ids, s)

/-- Fires an event on the host that tasks share, and starts the targets. -/
def fireOn (d : Conduct κ σ) (host : σ → Host κ) (task : Launch κ → τ) (canRun : Bool)
    (event : String) (payload : Payload) (s : Schedule σ τ) :
    Except EventError (List Nat) × Schedule σ τ :=
  match (host s.state).listeners event payload with
  | .error e => (.error e, s)
  | .ok callbacks =>
    if canRun then
      let (ids, s) := d.start task payload callbacks s
      (.ok ids, s)
    else (.error (.runtimeUnavailable event), s)

/-- Targets that are started one by one are started all together. -/
theorem start_eq (d : Conduct κ σ) (task : Launch κ → τ) (payload : Payload)
    (cs : List (Callback κ)) (s : Schedule σ τ) :
    d.start task payload cs s =
      Schedule.spawnAll { s with state := (d.dispatch payload cs s.state).2 }
        ((d.dispatch payload cs s.state).1.map task) := by
  induction cs generalizing s with
  | nil => rfl
  | cons c cs ih =>
      obtain ⟨launch?, w, hc⟩ : ∃ launch? w, d.consider payload c s.state = (launch?, w) :=
        ⟨_, _, rfl⟩
      rw [start, dispatch, hc]
      cases launch? with
      | none | some l =>
          dsimp only
          rw [ih]
          rfl

theorem fireOn_eq (d : Conduct κ σ) (host : σ → Host κ) (task : Launch κ → τ) (canRun : Bool)
    (event : String) (payload : Payload) (s : Schedule σ τ) :
    d.fireOn host task canRun event payload s =
      match d.fire canRun (host s.state) event payload s.state with
      | (.error e, w) => (.error e, { s with state := w })
      | (.ok launches, w) =>
        let (ids, s') := Schedule.spawnAll { s with state := w } (launches.map task)
        (.ok ids, s') := by
  rw [fireOn, fire]
  cases (host s.state).listeners event payload with
  | error e => rfl
  | ok callbacks =>
      cases canRun with
      | false => rfl
      | true =>
          dsimp only
          rw [if_pos rfl, if_pos rfl, start_eq]

/-- The schedule after a fire: the parts have left the world `w`, and the targets are ready. -/
def started (s : Schedule σ τ) (w : σ) (ts : List τ) : Schedule σ τ :=
  { s with
    state := w
    spawned := s.spawned + ts.length
    ready := s.ready ++ numbered s.spawned ts }

theorem fireOn_of_listeners (d : Conduct κ σ) {host : σ → Host κ} (task : Launch κ → τ)
    {event : String} {payload : Payload} {s : Schedule σ τ} {cs : List (Callback κ)}
    (hl : (host s.state).listeners event payload = .ok cs) :
    d.fireOn host task true event payload s =
      (.ok (List.range' s.spawned (d.dispatch payload cs s.state).1.length),
        started s (d.dispatch payload cs s.state).2
          ((d.dispatch payload cs s.state).1.map task)) := by
  rw [fireOn, hl]
  dsimp only
  rw [if_pos rfl, start_eq, Schedule.spawnAll_eq, List.length_map]
  rw [started, List.length_map]

end Conduct

/-! ### Benches and bots -/

namespace Rehearsal.Cast

theorem fire_eq_fireOn (cast : Cast) (canRun : Bool) (event : String) (payload : Payload)
    (s : BenchStage) :
    cast.fire canRun event payload s =
      cast.conduct.fireOn Bench.host (fun l => { name := l.target, payload := l.payload })
        canRun event payload s := by
  rw [fire, Conduct.fireOn_eq]
  cases cast.conduct.fire canRun s.state.host event payload s.state with
  | mk answer b => cases answer <;> rfl

theorem isForward_program (cast : Cast) : cast.program.IsForward := by
  intro t s
  change s.Adds (cast.poll t s).2
  rw [poll]
  dsimp only
  split
  · exact .of_eq rfl
  · exact .refl s

end Rehearsal.Cast

/-- The parts of a bot's listeners look at the bot. -/
def Bot.parts : Conduct Handler Bot where
  passes h payload b := (b.concerns payload h, b)
  adapt h payload b := (b.prepare payload h, b)

namespace Bot

theorem consider_parts (b : Bot) (payload : Payload) (c : Callback Handler) :
    parts.consider payload c b = ((b.conduct.consider payload c ()).1, b) := by
  obtain ⟨target, prefilter, preprocessor⟩ := c
  cases prefilter with
  | none => cases preprocessor <;> rfl
  | some p =>
      cases hv : b.concerns payload p.ident with
      | false => simp [Conduct.consider, parts, conduct, hv]
      | true => cases preprocessor <;> simp [Conduct.consider, parts, conduct, hv]

theorem dispatch_parts (b : Bot) (payload : Payload) (cs : List (Callback Handler)) :
    parts.dispatch payload cs b = ((b.conduct.dispatch payload cs ()).1, b) := by
  induction cs with
  | nil => rfl
  | cons c cs ih =>
      rw [Conduct.dispatch, Conduct.dispatch, consider_parts]
      simp only [ih]

theorem fire_parts (b : Bot) (event : String) (payload : Payload) :
    parts.fire true b.host event payload b = (b.launches event payload, b) := by
  rw [launches, Conduct.fire, Conduct.fire]
  cases b.host.listeners event payload with
  | error e => rfl
  | ok cs =>
      dsimp only
      rw [dispatch_parts]
      rfl

end Bot

theorem Stage.fire_eq_fireOn (s : Stage) (event : String) (payload : Payload) :
    s.fire event payload =
      match Bot.parts.fireOn (·.host) (fun l => Activity.launched l.target l.payload) true event
        payload s with
      | (.error e, _) => .error e
      | (.ok ids, s') => .ok (ids, s') := by
  have hf : Bot.parts.fire true s.state.host event payload s.state =
      (s.bot.launches event payload, s.state) := s.bot.fire_parts event payload
  simp only [Conduct.fireOn_eq, hf, fire]
  cases s.bot.launches event payload <;> rfl

/-! ### Snapshots -/

namespace Conduct

variable {κ σ τ : Type}

/-- **A fire takes a snapshot**, and its callbacks are on their own.  The parts may do to the world
whatever they like.

Exactly those callbacks have a turn that are active at the moment of the fire, each one once and in
the order of subscription, and every part that is called is given what was fired.  Whenever one
passes, its target is started, in this order, with what its own preprocessor made of what was fired,
and the answer is one number for each of them.  What the parts do to the host makes no difference to
this: parts that answer the same and do other things to it lead to the same answer and the same
tasks.  A task that was started is left alone until its turn, whatever happens to the host.  Where
no tasks can run, nothing is called and nothing changes. -/
theorem fire_is_snapshot [DecidableEq κ] (d : Conduct κ σ) (host : σ → Host κ)
    (task : Launch κ → τ) {event : String} {payload : Payload} {s : Schedule σ τ} {schema : Schema}
    (hs : (host s.state).schema? event = some schema) (hp : payload.Carries schema) :
    (∃ hearings w,
      d.Hearings payload ((host s.state).active event) s.state hearings w ∧
      d.recorded.fire true (host s.state) event payload (s.state, []) =
        (.ok (launched hearings), w, called hearings) ∧
      d.fireOn host task true event payload s =
        (.ok (List.range' s.spawned (launched hearings).length),
          started s w ((launched hearings).map task)) ∧
      (∀ d', d.AnswersLike d' → ∃ w', d'.fireOn host task true event payload s =
        (.ok (List.range' s.spawned (launched hearings).length),
          started s w' ((launched hearings).map task))) ∧
      ∀ (p : Program σ τ) turns s', p.IsForward →
        (started s w ((launched hearings).map task)).Evolves p turns s' →
        ∀ t ∈ numbered s.spawned ((launched hearings).map task),
          t ∈ s'.ready ++ s'.parked ∨ t ∈ turns) ∧
    (∀ es, host s.state = Host.empty.afterEdits es → ∃ r,
      Register.Run Register.empty es (Host.empty.answers es) r ∧
      (host s.state).active event = (r event).callbacks) ∧
    d.recorded.fire false (host s.state) event payload (s.state, []) =
      (.error (.runtimeUnavailable event), s.state, []) ∧
    d.fireOn host task false event payload s = (.error (.runtimeUnavailable event), s) := by
  have hl : (host s.state).listeners event payload = .ok ((host s.state).active event) :=
    ((host s.state).listeners_eq hs payload).elim And.right fun h => absurd hp h.1
  refine ⟨?_, fun es hes => ?_, by rw [fire, hl]; rfl, by rw [fireOn, hl]; rfl⟩
  · obtain ⟨hearings, w, hh, hd, hr⟩ :=
      d.exists_hearings payload ((host s.state).active event) s.state []
    have hf := d.fireOn_of_listeners task hl
    rw [hd] at hf
    refine ⟨hearings, w, hh, by simp [fire, hl, hr], hf, fun d' h' => ?_, ?_⟩
    · have hf' := d'.fireOn_of_listeners task hl
      rw [← h'.dispatch_eq payload _ s.state s.state, hd] at hf'
      exact ⟨_, hf'⟩
    · intro p turns s' hforward he t ht
      exact he.mem_or hforward (List.mem_append_left _ (List.mem_append_right _ ht))
  · have hsep := Host.separated_empty.afterEdits es
    refine ⟨_, Host.register_run Host.separated_empty es, ?_⟩
    rw [hes] at hs ⊢
    have hc : (Host.empty.afterEdits es).contains event = true := by
      rw [Host.contains_eq_isSome, hs]
      rfl
    rw [(hsep.active_parked event).1, if_pos hc]

namespace Sample

open Rehearsal

def who : Schema := ⟨["who"]⟩

/-- Two who listen at a door. -/
def edits : List (HostEdit String) :=
  [.create "door" who,
    .subscribe "door" { target := ⟨who, "host"⟩, prefilter := some ⟨who, "wreck"⟩ },
    .subscribe "door" { target := ⟨who, "butler"⟩, preprocessor := some ⟨who, "announce"⟩ }]

/-- The first one destroys the event when it is asked whether to listen. -/
def cast : Cast where
  prefilters := [("wreck", { rule := .always, effect := some (.destroy "door") })]
  preprocessors := [("announce", { rule := .append "who" "!" })]

def house : BenchStage := { state := { host := Host.empty.afterEdits edits } }

def guest : Payload := [("who", .text "Ann")]

def knocked : Except EventError (List Nat) × BenchStage :=
  cast.conduct.fireOn Bench.host (fun l => { name := l.target, payload := l.payload }) true "door"
    guest house

end Sample

open Rehearsal Sample in
/-- Both of them are started, although the first one destroys the event.  The event stays destroyed,
and that is nothing to those who were started. -/
theorem fire_is_snapshot_sample :
    (Bench.host house.state).schema? "door" = some who ∧ guest.Carries who ∧
      knocked.1 = .ok [0, 1] ∧ knocked.2.state.host.contains "door" = false ∧
      ∀ turns s', knocked.2.Evolves cast.program turns s' →
        ∀ t ∈ [(0, { name := "host", payload := guest }),
            (1, { name := "butler", payload := [("who", .text "Ann!")] })],
          t ∈ s'.ready ++ s'.parked ∨ t ∈ turns := by
  have hs : (Bench.host house.state).schema? "door" = some who := by with_unfolding_all rfl
  have hp : guest.Carries who := fun _ => Iff.rfl
  obtain ⟨hearings, w, -, -, hf, -, hlater⟩ := (fire_is_snapshot cast.conduct Bench.host
    (fun l => { name := l.target, payload := l.payload : Target }) hs hp).1
  have hanswer : knocked.1 = .ok [0, 1] := by with_unfolding_all rfl
  have hready : knocked.2.ready = [(0, { name := "host", payload := guest }),
      (1, { name := "butler", payload := [("who", .text "Ann!")] })] := by with_unfolding_all rfl
  refine ⟨hs, hp, hanswer, by with_unfolding_all rfl, fun turns s' he t ht => ?_⟩
  change knocked = _ at hf
  rw [hf] at he hready
  refine hlater _ turns s' cast.isForward_program he t ?_
  rw [← hready] at ht
  exact ht

end Conduct

end ChatBot
