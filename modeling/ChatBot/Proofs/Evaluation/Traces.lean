import ChatBot.Proofs.Evaluation.Refinement

/-!
# An evaluation leaves no trace on the host

The callbacks of an evaluation come and go between those of others, who create and destroy the event
under it meanwhile.  Once it is over, the host has filed what it would have filed if the others had
been alone.

* `Ensemble.Logged`: a run with the log of everything that was done to the host, and by whom.
* `Ensemble.leaves_no_trace`: when an evaluation is over, what the others did accounts for every
  list of callbacks.

The argument is about registers.  `Register.without` leaves out the callbacks of one evaluation.
What others do to a register and what they do to this smaller one agree, and what the evaluation
does itself is not seen there.  That a change is refused in the one only if it is in the other takes
the assumption that others create `on_message_sent` for messages: an inbox fits no other event.
-/

namespace ChatBot

/-! ### A register without one evaluation -/

namespace Register

/-- The register without the callbacks that serve inboxes with address `a`. -/
def without (r : Register Handler) (a : CorrelationId) : Register Handler :=
  fun name => { r name with callbacks := (r name).callbacks.filter (!·.serves a) }

theorem without_file (r : Register Handler) (name : String) (l : Listing Handler)
    (a : CorrelationId) :
    (r.file name l).without a =
      (r.without a).file name { l with callbacks := l.callbacks.filter (!·.serves a) } := by
  funext other
  by_cases ho : other = name
  · subst ho
    simp [without, file]
  · simp [without, file, ho]

end Register

/-- The change is no subscription of an inbox with address `a`, and does not take one back. -/
def HostEdit.Spares (a : CorrelationId) : HostEdit Handler → Prop
  | .create _ _ | .destroy _ => True
  | .subscribe _ c | .unsubscribe _ c => c.serves a = false

theorem HostEdit.IsForeign.spares {e : HostEdit Handler} (he : e.IsForeign) (a : CorrelationId) :
    e.Spares a := by
  cases e with
  | create | destroy => trivial
  | subscribe | unsubscribe => exact Callback.serves_of_none he

namespace Register

variable {r : Register Handler} {a : CorrelationId} {e : HostEdit Handler}

theorem without_edit (he : e.Spares a) : (r.edit e).without a = (r.without a).edit e := by
  cases e with
  | create name s | destroy name => exact without_file r name _ a
  | subscribe name c =>
      have hs : c.serves a = false := he
      have hc : [c].filter (!·.serves a) = [c] := List.filter_cons_of_pos (by rw [hs]; rfl)
      rw [edit, without_file, List.filter_append, hc]
      rfl
  | unsubscribe name c =>
      rw [edit, without_file, ← List.erase_filter]
      rfl

theorem without_subscribe {c : Callback Handler} (hc : c.serves a = true) (name : String) :
    (r.edit (.subscribe name c)).without a = r.without a := by
  rw [edit, without_file, List.filter_append, List.filter_cons_of_neg (by simpa using hc),
    List.filter_nil, List.append_nil]
  exact Function.update_eq_self name (r.without a)

theorem without_unsubscribe {c : Callback Handler} (hc : c.serves a = true) (name : String) :
    (r.edit (.unsubscribe name c)).without a = r.without a := by
  have hn : c ∉ (r name).callbacks.filter (!·.serves a) := by simp [hc]
  rw [edit, without_file, ← List.erase_filter, List.erase_of_not_mem hn]
  exact Function.update_eq_self name (r.without a)

/-- Leaving out callbacks that fit the events created under them, nothing else is refused. -/
theorem refuses_without_iff
    (hc : ∀ name s, e = .create name s → ∀ c ∈ (r name).callbacks, c.serves a = true → c.Fits s) :
    (∃ error, (r.without a).Refuses e error) ↔ ∃ error, r.Refuses e error := by
  constructor
  · rintro ⟨error, h⟩
    cases h with
    | reserved hp h => exact ⟨_, .reserved hp h⟩
    | repeated h => exact ⟨_, .repeated h⟩
    | taken h => exact ⟨_, .taken h⟩
    | listed hl hp h => exact ⟨_, .listed (List.mem_filter.mp hl).1 hp h⟩
    | unfit hs hp h => exact ⟨_, .unfit hs hp h⟩
  · rintro ⟨error, h⟩
    cases h with
    | reserved hp h => exact ⟨_, .reserved hp h⟩
    | repeated h => exact ⟨_, .repeated h⟩
    | taken h => exact ⟨_, .taken h⟩
    | @listed name s c p hl hp h =>
        have hs : c.serves a ≠ true := fun hs => h (hc name s rfl c hl hs p hp)
        exact ⟨_, .listed (List.mem_filter.mpr ⟨hl, by simpa using hs⟩) hp h⟩
    | unfit hs hp h => exact ⟨_, .unfit hs hp h⟩

end Register

namespace Host

theorem register_afterEdit {κ : Type} [DecidableEq κ] {h : Host κ} (hs : h.Separated)
    (e : HostEdit κ) :
    (h.afterEdit e).register =
      open Classical in if ∃ error, h.register.Refuses e error then h.register
        else h.register.edit e := by
  rcases edit_refines hs e with ⟨h', hk, hn, -, hr⟩ | ⟨error, hk, hr⟩
  · rw [if_neg fun ⟨error, he⟩ => hn error he, afterEdit, hk]
    exact hr
  · rw [if_pos ⟨error, hr⟩, afterEdit, hk]
    rfl

/-- Where callbacks are is settled by what is filed. -/
theorem eq_of_register {κ : Type} {h h' : Host κ} (hs : h.Separated) (hs' : h'.Separated)
    (hr : h.register = h'.register) (name : String) :
    h.schema? name = h'.schema? name ∧ h.active name = h'.active name ∧
      h.parked name = h'.parked name := by
  have he : h.schema? name = h'.schema? name := congrArg Listing.schema (congrFun hr name)
  have hc : h.contains name = h'.contains name := by
    rw [contains_eq_isSome, contains_eq_isSome, he]
  obtain ⟨ha, hp⟩ := hs.active_parked name
  obtain ⟨ha', hp'⟩ := hs'.active_parked name
  exact ⟨he, by rw [ha, ha', hr, hc], by rw [hp, hp', hr, hc]⟩

variable {h h' : Host Handler} {a : CorrelationId} {e : HostEdit Handler}

theorem without_afterEdit_of_spares (hs : h.Separated) (hs' : h'.Separated)
    (hr : h'.register = h.register.without a) (he : e.Spares a)
    (hc : ∀ name s, e = .create name s → ∀ c ∈ (h.register name).callbacks, c.serves a = true →
      c.Fits s) :
    (h'.afterEdit e).register = (h.afterEdit e).register.without a := by
  classical
  rw [register_afterEdit hs, register_afterEdit hs', hr, Register.refuses_without_iff hc,
    apply_ite (Register.without · a), Register.without_edit he]

theorem without_afterEdit_of_eq (hs : h.Separated)
    (he : (h.register.edit e).without a = h.register.without a) :
    (h.afterEdit e).register.without a = h.register.without a := by
  rw [register_afterEdit hs, apply_ite (Register.without · a), he, ite_self]

end Host

/-! ### Logs -/

/-- What an evaluation does to the host when it goes on. -/
def Phase.edit? (s : Stage) (session : Session) : Phase → Option (HostEdit Handler)
  | .talking (.ask _ _) =>
    some (.subscribe CoreEvent.onMessageSent.name (inboxCallback s.bot.minted session.address))
  | .leaving listener _ =>
    some (.unsubscribe CoreEvent.onMessageSent.name (inboxCallback listener session.address))
  | _ => none

/-- The changes of an evaluation are about its own inboxes. -/
theorem Phase.exists_of_edit? {s : Stage} {session : Session} {p : Phase} {c : HostEdit Handler}
    (h : p.edit? s session = some c) :
    ∃ listener, c = .subscribe CoreEvent.onMessageSent.name
        (inboxCallback listener session.address) ∨
      c = .unsubscribe CoreEvent.onMessageSent.name (inboxCallback listener session.address) := by
  cases p with
  | talking d =>
      cases d with
      | ask command resume => exact ⟨_, .inl (Option.some.inj h).symm⟩
      | done | fail => cases h
  | leaving listener next => exact ⟨listener, .inr (Option.some.inj h).symm⟩
  | subscribed | waiting | gone => cases h

theorem Phase.IsOver.listener?_eq {p : Phase} (h : p.IsOver) : p.listener? = none := by
  cases p with
  | talking | gone => rfl
  | subscribed | waiting | leaving => exact h.elim

theorem Phase.without_of_edit? {s : Stage} {session : Session} {p : Phase} {c : HostEdit Handler}
    (h : p.edit? s session = some c) (r : Register Handler) :
    (r.edit c).without session.address = r.without session.address := by
  obtain ⟨listener, rfl | rfl⟩ := Phase.exists_of_edit? h
  · exact Register.without_subscribe (by simp) _
  · exact Register.without_unsubscribe (by simp) _

theorem Phase.spares_of_edit? {s : Stage} {session : Session} {p : Phase} {c : HostEdit Handler}
    (h : p.edit? s session = some c) {a : CorrelationId} (ha : session.address ≠ a) :
    c.Spares a := by
  obtain ⟨listener, rfl | rfl⟩ := Phase.exists_of_edit? h
  · exact decide_eq_false ha
  · exact decide_eq_false ha

/-- An inbox that cannot be opened is one that the host refuses. -/
theorem Stage.openInbox_error {s : Stage} {a : CorrelationId} {error : EventError}
    (ho : s.openInbox a = .error error) :
    s.bot.host.subscribe CoreEvent.onMessageSent.name (inboxCallback s.bot.minted a) =
      .error error := by
  rw [openInbox] at ho
  dsimp only [mint] at ho
  split at ho
  · rename_i hh
    cases ho
    exact hh
  · cases ho

namespace Ensemble

/-- A change of the host, with the state it was made in, and the evaluation that made it unless it
was someone else. -/
structure Deed where
  state : Ensemble
  who : Option CorrelationId
  edit : HostEdit Handler

/-- A step with what it does to the host. -/
inductive Acts (σ : Ensemble) : Option Deed → Ensemble → Prop where
  /-- Someone else changes the host. -/
  | edit {c : HostEdit Handler} (hc : c.IsForeign) :
      Acts σ (some ⟨σ, none, c⟩)
        { σ with stage := σ.stage.modify fun b => { b with host := b.host.afterEdit c } }
  /-- An evaluation goes on, and may open or close an inbox. -/
  | proceed {a : CorrelationId} {e : Evaluation} {m : Move} (he : σ.evaluations a = some e)
      (hm : e.phase.Proceeds σ.stage e.session m) :
      Acts σ ((e.phase.edit? σ.stage e.session).map (⟨σ, some a, ·⟩)) (σ.move a e m)
  /-- Any step that leaves the host as it is. -/
  | quiet {σ' : Ensemble} (hs : Step σ σ') (hh : σ'.stage.bot.host = σ.stage.bot.host) :
      Acts σ none σ'

/-- A run with the log of what was done to the host. -/
inductive Logged (τ : Ensemble) : List Deed → Ensemble → Prop where
  | nil : Logged τ [] τ
  | step {log : List Deed} {d : Option Deed} {σ σ' : Ensemble} (h : Logged τ log σ)
      (hs : Acts σ d σ') : Logged τ (log ++ d.toList) σ'

/-- What others than the evaluation at `a` have done. -/
def others (a : CorrelationId) (log : List Deed) : List (HostEdit Handler) :=
  (log.filter (·.who ≠ some a)).map (·.edit)

/-- The address of the next evaluation. -/
def nextAddress (σ : Ensemble) : CorrelationId := ⟨evaluationOrigin, σ.stage.bot.minted⟩

variable {σ σ' τ : Ensemble} {d : Option Deed} {log : List Deed} {a : CorrelationId}

theorem Acts.toStep (h : Acts σ d σ') : Step σ σ' := by
  cases h with
  | edit hc => exact .edit hc
  | proceed he hm => exact .proceed he hm
  | quiet hs _ => exact hs

/-- Nobody but evaluations and those who change the host does anything to it. -/
theorem Step.exists_acts (hs : Step σ σ') : ∃ d, Acts σ d σ' := by
  cases hs with
  | edit hc => exact ⟨_, .edit hc⟩
  | proceed he hm => exact ⟨_, .proceed he hm⟩
  | enroll origin deadline language text => exact ⟨none, .quiet (.enroll ..) rfl⟩
  | drop he hp => exact ⟨none, .quiet (.drop he hp) rfl⟩
  | fire answered hl => exact ⟨none, .quiet (.fire answered hl) rfl⟩
  | consider hd hc =>
      exact ⟨none, .quiet (.consider hd hc) (congrArg Bot.host (Stage.consider_state _ _))⟩
  | @deliver before after task t hr ht =>
      refine ⟨none, .quiet (.deliver hr ht) ?_⟩
      rcases σ.deliver_cases t (before ++ after) with he | ⟨reply, -, -, -, he⟩
      · exact he ▸ rfl
      · exact he ▸ rfl
  | other hs => exact ⟨none, .quiet (.other hs) hs.host⟩

theorem Steps.exists_logged (hs : Steps τ σ) : ∃ log, Logged τ log σ := by
  induction hs with
  | refl => exact ⟨[], .nil⟩
  | tail _ hs ih =>
      obtain ⟨log, hl⟩ := ih
      obtain ⟨d, hd⟩ := hs.exists_acts
      exact ⟨_, hl.step hd⟩

theorem Logged.attended (hτ : τ.Attended) (h : Logged τ log σ) : σ.Attended := by
  induction h with
  | nil => exact hτ
  | step _ hs ih => exact ih.step hs.toStep

/-- An evaluation that goes on does to the host what it says. -/
theorem Attended.host_of_proceeds (h : σ.Attended) {e : Evaluation} {m : Move}
    (hm : e.phase.Proceeds σ.stage e.session m) :
    m.stage.bot.host =
      (e.phase.edit? σ.stage e.session).elim σ.stage.bot.host σ.stage.bot.host.afterEdit := by
  obtain ⟨session, language, text, phase⟩ := e
  dsimp only at hm ⊢
  cases hm with
  | refuse ho =>
      rw [Phase.edit?, Option.elim_some, Host.afterEdit, Host.edit, Stage.openInbox_error ho]
      rfl
  | subscribe ho =>
      obtain ⟨rfl, host, hh, rfl⟩ := Stage.openInbox_ok ho
      rw [Phase.edit?, Option.elim_some, Host.afterEdit, Host.edit, hh]
      rfl
  | publish hf => exact congrArg Bot.host (h.publish hf).1
  | lose | receive | giveUp | close => rfl

theorem Attended.host_of_acts (h : σ.Attended) (hs : Acts σ d σ') :
    σ'.stage.bot.host = σ.stage.bot.host.afterEdits (d.toList.map (·.edit)) := by
  cases hs with
  | edit hc => rfl
  | @proceed a e m he hm =>
      refine (h.host_of_proceeds hm).trans ?_
      cases e.phase.edit? σ.stage e.session <;> rfl
  | quiet _ hh => exact hh

/-- The log accounts for the host. -/
theorem Logged.host (hτ : τ.Attended) (h : Logged τ log σ) :
    σ.stage.bot.host = τ.stage.bot.host.afterEdits (log.map (·.edit)) := by
  induction h with
  | nil => rfl
  | step hl hs ih =>
      rw [(hl.attended hτ).host_of_acts hs, ih, List.map_append, Host.afterEdits, Host.afterEdits,
        Host.afterEdits, List.foldl_append]

/-- While the evaluation at `a` is in a round trip, nobody creates `on_message_sent` for anything
but messages. -/
def Compatible (a : CorrelationId) (log : List Deed) : Prop :=
  ∀ d ∈ log, d.state.roundTrip? a ≠ none →
    ∀ s, d.edit = .create CoreEvent.onMessageSent.name s → Schema.ofMessage.Matches s

/-- The callbacks of an evaluation fit what is created for messages. -/
theorem Attended.fits (h : σ.Attended) {name : String} {s : Schema} {c : Callback Handler}
    (hs : σ.roundTrip? a ≠ none → name = CoreEvent.onMessageSent.name → Schema.ofMessage.Matches s)
    (hc : c ∈ (σ.stage.bot.host.register name).callbacks) (ha : c.serves a = true) : c.Fits s := by
  obtain ⟨listener, hi⟩ := Callback.serves_iff.mp ha
  by_cases hn : name = CoreEvent.onMessageSent.name
  · have hr : σ.roundTrip? a ≠ none := fun hr => by
      have hm := List.mem_filter.mpr ⟨hn ▸ hc, ha⟩
      rw [h.serves.listed a, show σ.traffic.roundTrip? a = none from hr] at hm
      cases hm
    obtain rfl := h.serves.eq_inboxCallback hc hi
    intro p hp
    -- both parts of it, the target and the prefilter, declare a message
    have hm : p.2.schema = Schema.ofMessage := by
      simp only [Callback.parts, inboxCallback, Option.toList] at hp
      rcases List.mem_pair.mp hp with rfl | rfl <;> rfl
    exact hm ▸ hs hr hn
  · rw [h.serves.elsewhere name hn c hc] at hi
    cases hi

theorem Attended.register_without (h : σ.Attended) (hr : σ.roundTrip? a = none) :
    σ.stage.bot.host.register.without a = σ.stage.bot.host.register := by
  funext name
  have hn : (σ.stage.bot.host.register name).callbacks.filter (!·.serves a) =
      (σ.stage.bot.host.register name).callbacks := by
    refine List.filter_eq_self.mpr fun c hc => ?_
    by_cases hname : name = CoreEvent.onMessageSent.name
    · have hf := h.serves.listed a
      rw [show σ.traffic.roundTrip? a = none from hr] at hf
      simpa using List.filter_eq_nil_iff.mp hf c (hname ▸ hc)
    · rw [Callback.serves_of_none (h.serves.elsewhere name hname c hc)]
      rfl
  rw [Register.without, hn]

/-- One step of all, and what the others do in it. -/
theorem Attended.register_others (h : σ.Attended) {host : Host Handler} (hs : host.Separated)
    (hr : host.register = σ.stage.bot.host.register.without a) (hc : Compatible a d.toList)
    (hd : Acts σ d σ') :
    (host.afterEdits (others a d.toList)).register = σ'.stage.bot.host.register.without a := by
  cases hd with
  | @edit c hf =>
      refine Host.without_afterEdit_of_spares h.serves.separated hs hr (hf.spares a) ?_
      rintro name s rfl c hm ha
      refine h.fits (fun ht hn => hc _ (List.mem_singleton.mpr rfl) ht s ?_) hm ha
      rw [hn]
  | @proceed b e m he hm =>
      have hb : e.session.address = b := (h.addressed b e he).1
      have hh := h.host_of_proceeds hm
      cases hk : e.phase.edit? σ.stage e.session with
      -- it does nothing to the host
      | none =>
          rw [hk] at hh
          exact (congrArg (·.register.without a) hh).symm ▸ hr
      | some k =>
          rw [hk] at hh
          refine Eq.trans ?_ (congrArg (·.register.without a) hh).symm
          by_cases hba : b = a
          -- it opens or closes the inbox that is left out, and the others do nothing
          · subst hba
            have ho : others b (some ⟨σ, some b, k⟩ : Option Deed).toList = [] := by simp [others]
            have hw := Host.without_afterEdit_of_eq h.serves.separated
              (hb ▸ Phase.without_of_edit? hk σ.stage.bot.host.register)
            exact ho ▸ hr.trans hw.symm
          -- it is another evaluation, and its inboxes are like any other callback
          · have ho : others a (some ⟨σ, some b, k⟩ : Option Deed).toList = [k] := by
              simp [others, hba]
            refine ho ▸ Host.without_afterEdit_of_spares h.serves.separated hs hr
              (Phase.spares_of_edit? hk (hb ▸ hba)) ?_
            rintro name s rfl
            obtain ⟨listener, hl | hl⟩ := Phase.exists_of_edit? hk <;> cases hl
  | quiet _ hh => exact hh.symm ▸ hr

/-- **The others alone have the same effect**, but for the inbox of the evaluation. -/
theorem Logged.register_others (hτ : τ.Attended) (hn : τ.roundTrip? a = none)
    (h : Logged τ log σ) (hc : Compatible a log) :
    (τ.stage.bot.host.afterEdits (others a log)).register =
      σ.stage.bot.host.register.without a := by
  induction h with
  | nil => exact (hτ.register_without hn).symm
  | @step log d σ σ' hl hs ih =>
      have hr := ih fun d hd => hc d (List.mem_append_left _ hd)
      have ho : τ.stage.bot.host.afterEdits (others a (log ++ d.toList)) =
          (τ.stage.bot.host.afterEdits (others a log)).afterEdits (others a d.toList) := by
        rw [others, List.filter_append, List.map_append, Host.afterEdits, List.foldl_append]
        rfl
      rw [ho]
      exact (hl.attended hτ).register_others (hτ.serves.separated.afterEdits _) hr
        (fun d hd => hc d (List.mem_append_right _ hd)) hs

/-- **An evaluation leaves no trace.**  Whatever happens while it is at work, there is a log of what
was done to the host, and by whom.  The log accounts for the host; and where the evaluation is over,
however it came to its end, so does what the others did, without the evaluation: every event exists
with the same schema and has the same callbacks, active or parked, in the same order. -/
theorem leaves_no_trace (h : Reachable τ) (origin : Message) (deadline : Nat) (language : Language)
    (text : String) :
    (∀ σ, Steps (τ.enroll origin deadline language text) σ →
      ∃ log, Logged (τ.enroll origin deadline language text) log σ) ∧
    ∀ log σ, Logged (τ.enroll origin deadline language text) log σ →
      σ.stage.bot.host = τ.stage.bot.host.afterEdits (log.map (·.edit)) ∧
      (Compatible τ.nextAddress log →
        ∀ e, σ.evaluations τ.nextAddress = some e → e.phase.IsOver → ∀ name,
          let alone := τ.stage.bot.host.afterEdits (others τ.nextAddress log)
          σ.stage.bot.host.schema? name = alone.schema? name ∧
            σ.stage.bot.host.active name = alone.active name ∧
            σ.stage.bot.host.parked name = alone.parked name) := by
  have hτ : (τ.enroll origin deadline language text).Attended :=
    (Run.sound h).attended.enroll origin deadline language text
  refine ⟨fun σ hs => hs.exists_logged, fun log σ hl => ?_⟩
  have hh := hl.host hτ
  refine ⟨hh, fun hc e he ho name => ?_⟩
  have hn : (τ.enroll origin deadline language text).roundTrip? τ.nextAddress = none := by
    rw [roundTrip?, nextAddress, evaluations_enroll_self]
    rfl
  have hσ : σ.roundTrip? τ.nextAddress = none := by
    rw [roundTrip?, he, Option.bind_some]
    exact ho.listener?_eq
  have hr := (hl.register_others hτ hn hc).trans ((hl.attended hτ).register_without hσ)
  exact Host.eq_of_register (hl.attended hτ).serves.separated
    (hτ.serves.separated.afterEdits _) hr.symm name

/-! ### A run

The inbox of an evaluation is parked, since there is no `on_message_sent`, becomes active, is parked
again, and has a guest after it when the evaluation runs out of time. -/

namespace Sample

def hasty (phase : Phase) : Evaluation where
  session := ⟨{}, address, 0⟩
  language := {}
  text := "!a"
  phase := phase

def guest : Callback Handler where
  target := ⟨Schema.ofMessage, .guest "g"⟩

def change (σ : Ensemble) (c : HostEdit Handler) : Ensemble :=
  { σ with stage := σ.stage.modify fun b => { b with host := b.host.afterEdit c } }

def asked : Ensemble := created.enroll {} 0 {} "!a"

/-- The stage once the inbox is parked. -/
def parking : Stage :=
  asked.stage.modify fun b => { b with
    host := (b.host.subscribe CoreEvent.onMessageSent.name
      (inboxCallback 1 address)).toOption.getD {}
    minted := 2
    inboxes := [1] }

def parked : Ensemble :=
  asked.move address (hasty (.talking (.ask "!a" .done)))
    ⟨parking, .subscribed 1 "!a" .done, [.opened address 1]⟩

def pending : Ensemble :=
  parked.move address (hasty (.subscribed 1 "!a" .done))
    ⟨parking, .waiting 1 "!a" .done, [.published address 1 "!a"]⟩

def activated : Ensemble := change pending (.create CoreEvent.onMessageSent.name Schema.ofMessage)

def deactivated : Ensemble := change activated (.destroy CoreEvent.onMessageSent.name)

def joined : Ensemble := change deactivated (.subscribe CoreEvent.onMessageSent.name guest)

def expired : Ensemble :=
  joined.move address (hasty (.waiting 1 "!a" .done))
    ⟨joined.stage, .leaving 1 (some (.fail (.timeout "!a"))), []⟩

def failed : Ensemble :=
  expired.move address (hasty (.leaving 1 (some (.fail (.timeout "!a")))))
    ⟨expired.stage.closeInbox 1 address, .talking (.fail (.timeout "!a")), []⟩

/-- All that was done to the host. -/
def deeds : List Deed :=
  [⟨asked, some address, .subscribe CoreEvent.onMessageSent.name (inboxCallback 1 address)⟩,
    ⟨pending, none, .create CoreEvent.onMessageSent.name Schema.ofMessage⟩,
    ⟨activated, none, .destroy CoreEvent.onMessageSent.name⟩,
    ⟨deactivated, none, .subscribe CoreEvent.onMessageSent.name guest⟩,
    ⟨expired, some address, .unsubscribe CoreEvent.onMessageSent.name (inboxCallback 1 address)⟩]

theorem evaluations_asked :
    asked.evaluations address = some (hasty (.talking (.ask "!a" .done))) := by
  have hb := evaluations_enroll_self created {} 0 {} "!a"
  rw [evaluate_text] at hb
  exact hb

theorem logged_failed : Logged asked deeds failed := by
  have l₁ : Logged asked (deeds.take 1) parked :=
    Logged.nil.step (.proceed evaluations_asked (.subscribe rfl))
  have l₂ : Logged asked (deeds.take 1) pending := by
    refine l₁.step (d := none) (.proceed (evaluations_move_self _ _ _ _) (.publish ?_))
    have hl := Host.listeners_ofMessage (h := parking.bot.host)
      (rfl : parking.bot.host.schema? CoreEvent.onMessage.name = _)
      (Session.request ⟨{}, address, 0⟩ "!a")
    change parking.fireTracked _ _ = _
    simp only [Stage.fireTracked, Stage.fire, Bot.launches, Conduct.fire, hasty, hl]
    rfl
  have l₃ : Logged asked (deeds.take 2) activated := l₂.step (.edit (c := .create _ _) trivial)
  have l₄ : Logged asked (deeds.take 3) deactivated := l₃.step (.edit (c := .destroy _) trivial)
  have l₅ : Logged asked (deeds.take 4) joined := l₄.step (.edit (c := .subscribe _ guest) rfl)
  have he : joined.evaluations address = some (hasty (.waiting 1 "!a" .done)) :=
    evaluations_move_self parked address _ _
  have l₆ : Logged asked (deeds.take 4) expired :=
    l₅.step (d := none) (.proceed he (.giveUp rfl (Nat.zero_le _)))
  exact l₆.step (.proceed (evaluations_move_self _ _ _ _) .close)

end Sample

theorem leaves_no_trace_sample :
    Reachable Sample.created ∧ Logged Sample.asked Sample.deeds Sample.failed ∧
      Compatible Sample.address Sample.deeds ∧
      Sample.failed.stage.bot.host.parked CoreEvent.onMessageSent.name = [Sample.guest] := by
  have h : Reachable Sample.created :=
    .step (.start trivial) (.edit (c := .create _ _) trivial) trivial
  have hc : Compatible Sample.address Sample.deeds := by
    intro d hd _ s hs
    simp only [Sample.deeds, List.mem_cons, List.not_mem_nil, or_false] at hd
    rcases hd with rfl | rfl | rfl | rfl | rfl <;> cases hs
    exact .refl _
  have he := evaluations_move_self Sample.expired Sample.address
    (Sample.hasty (.leaving 1 (some (.fail (.timeout "!a")))))
    ⟨Sample.expired.stage.closeInbox 1 Sample.address, .talking (.fail (.timeout "!a")), []⟩
  obtain ⟨-, -, hp⟩ := ((leaves_no_trace h {} 0 {} "!a").2 _ _ Sample.logged_failed).2 hc _ he
    trivial CoreEvent.onMessageSent.name
  exact ⟨h, Sample.logged_failed, hc, hp⟩

end Ensemble

end ChatBot
