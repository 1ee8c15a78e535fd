import Mathlib.Logic.Function.Basic
import ChatBot.Proofs.Event.Checks

/-!
# The event host is a register of one list per name

A host keeps the callbacks of a name in one of two directories, and moves them to the other one when
the event is created or destroyed.  Seen from outside there is one list per name: a `Register` files
under each name a schema, if the event exists, and everyone who listens, in the order of
subscription.  `Host.register` is that view.

* `Register.edit` says what a change does, and `Register.Refuses` why one is refused.
* `Host.edit_refines`: a host carries out exactly the changes that its register does not refuse,
  with the same effect, and gives one of the register's reasons for refusing the others.
* `Host.history_refines`: so does every history of changes, and whatever was refused in it.

What carries the induction is `Host.Separated`: nobody is parked for an event that exists, so that
to park the callbacks of a destroyed event is to leave the list as it is.
-/

namespace ChatBot

/-! ### Registers -/

/-- What is filed under a name: the schema of the event, if it exists, and everyone who listens, in
the order of subscription. -/
structure Listing (κ : Type) where
  schema : Option Schema := none
  callbacks : List (Callback κ) := []

/-- One listing for each name. -/
abbrev Register (κ : Type) := String → Listing κ

namespace Register

variable {κ : Type}

/-- A register without events and without callbacks. -/
def empty : Register κ := fun _ => {}

/-- The register with another listing under `name`. -/
def file (r : Register κ) (name : String) (l : Listing κ) : Register κ := Function.update r name l

/-- What a change does to a register. -/
def edit [DecidableEq κ] (r : Register κ) : HostEdit κ → Register κ
  | .create name s => r.file name { r name with schema := some s }
  | .destroy name => r.file name { r name with schema := none }
  | .subscribe name c => r.file name { r name with callbacks := (r name).callbacks ++ [c] }
  | .unsubscribe name c => r.file name { r name with callbacks := (r name).callbacks.erase c }

/-- Why a change is refused. -/
inductive Refuses (r : Register κ) : HostEdit κ → EventError → Prop where
  | reserved {name p : String} {s : Schema} (hp : p ∈ s.params) (h : Schema.IsReserved p) :
      Refuses r (.create name s) (.reservedParameter name p)
  | repeated {name p : String} {s : Schema} (h : 2 ≤ s.params.count p) :
      Refuses r (.create name s) (.repeatedParameter name p)
  | taken {name : String} {s : Schema} (h : (r name).schema ≠ none) :
      Refuses r (.create name s) (.alreadyExists name)
  | listed {name : String} {s : Schema} {c : Callback κ} {p : String × Part κ}
      (hc : c ∈ (r name).callbacks) (hp : p ∈ c.parts) (h : ¬ p.2.schema.Matches s) :
      Refuses r (.create name s) (.signature name p.1 s p.2.schema)
  | unfit {name : String} {s : Schema} {c : Callback κ} {p : String × Part κ}
      (hs : (r name).schema = some s) (hp : p ∈ c.parts) (h : ¬ p.2.schema.Matches s) :
      Refuses r (.subscribe name c) (.signature name p.1 s p.2.schema)

/-- A history of changes with what was answered to each of them.  A refused change changes
nothing. -/
inductive Run [DecidableEq κ] :
    Register κ → List (HostEdit κ) → List (Except EventError Unit) → Register κ → Prop where
  | nil (r : Register κ) : Run r [] [] r
  | done {r r' : Register κ} {e : HostEdit κ} {es : List (HostEdit κ)}
      {answers : List (Except EventError Unit)} (h : ∀ error, ¬ r.Refuses e error)
      (t : Run (r.edit e) es answers r') : Run r (e :: es) (.ok () :: answers) r'
  | refused {r r' : Register κ} {e : HostEdit κ} {es : List (HostEdit κ)} {error : EventError}
      {answers : List (Except EventError Unit)} (h : r.Refuses e error)
      (t : Run r es answers r') : Run r (e :: es) (.error error :: answers) r'

end Register

/-! ### The register of a host -/

namespace Host

variable {κ : Type}

/-- What a host has filed under each name. -/
def register (h : Host κ) : Register κ :=
  fun name => ⟨h.schema? name, h.active name ++ h.parked name⟩

/-- Nobody is parked for an event that exists. -/
def Separated (h : Host κ) : Prop :=
  ∀ name, h.contains name = true → h.pending.get? name = none

theorem separated_empty : (empty : Host κ).Separated := by
  intro name h
  cases h

theorem contains_eq_isSome (h : Host κ) (name : String) :
    h.contains name = (h.schema? name).isSome := by
  simp [contains, Directory.contains, schema?]

theorem contains_of_get? {h : Host κ} {name : String} {event : Event κ}
    (he : h.events.get? name = some event) : h.contains name = true := by
  rw [contains, Directory.contains, he]
  rfl

/-- The callbacks of an event that exists are the active ones. -/
theorem Separated.parked_eq_nil {h : Host κ} (hs : h.Separated) {name : String}
    (hc : h.contains name = true) : h.parked name = [] := by
  rw [parked, hs name hc]
  rfl

/-- The callbacks of an event that does not exist are the parked ones. -/
theorem active_eq_nil {h : Host κ} {name : String} (hc : h.contains name = false) :
    h.active name = [] := by
  rw [contains, Directory.contains, Option.isSome_eq_false_iff, Option.isNone_iff_eq_none] at hc
  rw [active, hc]
  rfl

/-- Where the callbacks of a name are: with the event if it exists, and parked if it does not. -/
theorem Separated.active_parked {h : Host κ} (hs : h.Separated) (name : String) :
    h.active name = (if h.contains name then (h.register name).callbacks else []) ∧
      h.parked name = if h.contains name then [] else (h.register name).callbacks := by
  cases hc : h.contains name with
  | true => simp [register, hs.parked_eq_nil hc]
  | false => simp [register, active_eq_nil hc]

/-- What creating an event amounts to where it is not refused. -/
theorem create_ok {h h' : Host κ} {name : String} {s : Schema} (hc : h.create name s = .ok h') :
    s.validate name = .ok () ∧ h.contains name = false ∧ (∀ c ∈ h.parked name, c.Fits s) ∧
      h' = { events := h.events.set name ⟨s, h.parked name⟩, pending := h.pending.erase name } := by
  unfold create at hc
  cases hv : s.validate name with
  | error e => rw [hv] at hc; cases hc
  | ok u =>
      cases hn : h.contains name with
      | true => rw [hv, hn] at hc; cases hc
      | false =>
          rw [hv, hn] at hc
          cases hf : ((h.parked name).forM (·.check name s) : Except EventError PUnit) with
          | error e => simp only [hf] at hc; cases hc
          | ok u =>
              simp only [hf] at hc
              cases hc
              exact ⟨rfl, rfl, Callback.forM_check_ok hf, rfl⟩

/-- Where creating an event is refused, the register has the reason. -/
theorem create_error {h : Host κ} {name : String} {s : Schema} {e : EventError}
    (hc : h.create name s = .error e) : h.register.Refuses (.create name s) e := by
  unfold create at hc
  cases hv : s.validate name with
  | error e' =>
      rw [hv] at hc
      cases hc
      rcases Schema.validateFrom_error hv with ⟨p, hp, hr, rfl⟩ | ⟨p, hp, rfl⟩
      · exact .reserved hp hr
      · exact .repeated hp
  | ok u =>
      cases hn : h.contains name with
      | true =>
          rw [hv, hn] at hc
          cases hc
          refine .taken fun hs => ?_
          rw [contains_eq_isSome] at hn
          rw [show h.schema? name = none from hs] at hn
          cases hn
      | false =>
          rw [hv, hn] at hc
          cases hf : ((h.parked name).forM (·.check name s) : Except EventError PUnit) with
          | ok u => simp only [hf] at hc; cases hc
          | error e' =>
              simp only [hf] at hc
              cases hc
              obtain ⟨c, hc, he⟩ := Callback.forM_check_error hf
              obtain ⟨p, hp, hm, rfl⟩ := Callback.check_error he
              exact .listed (List.mem_append_right _ hc) hp hm

/-- Who may listen to an event that exists. -/
theorem subscribe_ok {h h' : Host κ} {name : String} {c : Callback κ} {s : Schema}
    (hc : h.subscribe name c = .ok h') (hs : h.schema? name = some s) : c.Fits s := by
  unfold subscribe at hc
  split at hc
  · rename_i he
    simp [schema?, he] at hs
  · rename_i event he
    rw [schema?, he] at hs
    cases hs
    cases hf : c.check name event.schema with
    | error e => rw [hf] at hc; cases hc
    | ok u => exact Callback.check_ok hf

theorem subscribe_error {h : Host κ} {name : String} {c : Callback κ} {e : EventError}
    (hc : h.subscribe name c = .error e) : h.register.Refuses (.subscribe name c) e := by
  unfold subscribe at hc
  split at hc
  · cases hc
  · rename_i event he
    cases hf : c.check name event.schema with
    | ok u => rw [hf] at hc; cases hc
    | error e' =>
        rw [hf] at hc
        cases hc
        obtain ⟨p, hp, hm, rfl⟩ := Callback.check_error hf
        exact .unfit (by simp [register, schema?, he]) hp hm

/-- An event that exists may get other callbacks. -/
theorem Separated.of_events_set {h : Host κ} (hs : h.Separated) {name : String}
    {event event' : Event κ} (he : h.events.get? name = some event) :
    ({ h with events := h.events.set name event' } : Host κ).Separated := by
  intro other ho
  by_cases hne : name = other
  · subst hne
    exact hs name (contains_of_get? he)
  · rw [contains, Directory.contains, Directory.get?_set_of_ne _ hne] at ho
    exact hs other ho

/-- A change of what is filed under one name: the register changes there and nowhere else. -/
theorem register_eq_file {h h' : Host κ} {name : String} {l : Listing κ}
    (hl : h'.register name = l)
    (ho : ∀ other, name ≠ other →
      h'.events.get? other = h.events.get? other ∧ h'.pending.get? other = h.pending.get? other) :
    h'.register = h.register.file name l := by
  funext other
  by_cases hne : name = other
  · subst hne
    rw [hl, Register.file, Function.update_self]
  · obtain ⟨he, hp⟩ := ho other hne
    rw [Register.file, Function.update_of_ne (Ne.symm hne)]
    simp only [register, schema?, active, parked, he, hp]

theorem Separated.create {h h' : Host κ} (hs : h.Separated) {name : String} {s : Schema}
    (hc : h.create name s = .ok h') : h'.Separated := by
  obtain ⟨-, -, -, rfl⟩ := create_ok hc
  intro other ho
  by_cases hne : name = other
  · subst hne
    exact Directory.get?_erase_self _ _
  · rw [contains, Directory.contains, Directory.get?_set_of_ne _ hne] at ho
    exact (Directory.get?_erase_of_ne _ hne).trans (hs other ho)

theorem Separated.destroy {h : Host κ} (hs : h.Separated) (name : String) :
    (h.destroy name).Separated := by
  unfold Host.destroy
  split
  · exact hs
  · rename_i event he
    intro other ho
    by_cases hne : name = other
    · subst hne
      simp [contains, Directory.contains] at ho
    · rw [contains, Directory.contains, Directory.get?_erase_of_ne _ hne] at ho
      exact (Directory.get?_set_of_ne _ hne _).trans (hs other ho)

theorem Separated.subscribe {h h' : Host κ} (hs : h.Separated) {name : String} {c : Callback κ}
    (hc : h.subscribe name c = .ok h') : h'.Separated := by
  unfold Host.subscribe at hc
  split at hc
  · rename_i he
    cases hc
    intro other ho
    by_cases hne : name = other
    · subst hne
      simp [contains, Directory.contains, he] at ho
    · exact (Directory.get?_set_of_ne _ hne _).trans (hs other ho)
  · rename_i event he
    cases hf : c.check name event.schema with
    | error e => rw [hf] at hc; cases hc
    | ok u =>
        rw [hf] at hc
        cases hc
        exact hs.of_events_set he

variable [DecidableEq κ]

theorem register_create {h h' : Host κ} {name : String} {s : Schema}
    (hc : h.create name s = .ok h') : h'.register = h.register.edit (.create name s) := by
  obtain ⟨-, hn, -, rfl⟩ := create_ok hc
  refine register_eq_file ?_ fun other ho =>
    ⟨Directory.get?_set_of_ne _ ho _, Directory.get?_erase_of_ne _ ho⟩
  have ha : h.active name = [] := active_eq_nil hn
  simpa [register, schema?, active, parked] using ha

theorem register_destroy {h : Host κ} (hs : h.Separated) (name : String) :
    (h.destroy name).register = h.register.edit (.destroy name) := by
  unfold destroy
  split
  · rename_i he
    refine register_eq_file ?_ fun other _ => ⟨rfl, rfl⟩
    simp [register, schema?, he]
  · rename_i event he
    refine register_eq_file ?_ fun other ho =>
      ⟨Directory.get?_erase_of_ne _ ho, Directory.get?_set_of_ne _ ho _⟩
    -- nobody is parked yet, so that to park the callbacks is to keep the list
    have hp := hs.parked_eq_nil (contains_of_get? he)
    rw [parked] at hp
    simp [register, schema?, active, he, parked, hp]

theorem register_subscribe {h h' : Host κ} (hs : h.Separated) {name : String} {c : Callback κ}
    (hc : h.subscribe name c = .ok h') : h'.register = h.register.edit (.subscribe name c) := by
  unfold subscribe at hc
  split at hc
  · rename_i he
    cases hc
    refine register_eq_file ?_ fun other ho => ⟨rfl, Directory.get?_set_of_ne _ ho _⟩
    simp [register, schema?, active, he, parked]
  · rename_i event he
    cases hf : c.check name event.schema with
    | error e => rw [hf] at hc; cases hc
    | ok u =>
        rw [hf] at hc
        cases hc
        refine register_eq_file ?_ fun other ho => ⟨Directory.get?_set_of_ne _ ho _, rfl⟩
        have hp := hs.parked_eq_nil (contains_of_get? he)
        rw [parked] at hp
        simp [register, schema?, active, he, parked, hp]

theorem register_unsubscribe {h : Host κ} (hs : h.Separated) (name : String) (c : Callback κ) :
    (h.unsubscribe name c).register = h.register.edit (.unsubscribe name c) := by
  unfold unsubscribe
  split
  · rename_i event he
    refine register_eq_file ?_ fun other ho => ⟨Directory.get?_set_of_ne _ ho _, rfl⟩
    have hp := hs.parked_eq_nil (contains_of_get? he)
    rw [parked] at hp
    simp [register, schema?, active, he, parked, hp]
  · rename_i he
    split
    · rename_i waiting hw
      refine register_eq_file ?_ fun other ho => ⟨rfl, Directory.get?_set_of_ne _ ho _⟩
      simp [register, schema?, active, he, parked, hw]
    · rename_i hw
      refine register_eq_file ?_ fun other _ => ⟨rfl, rfl⟩
      simp [register, schema?, active, he, parked, hw]

theorem Separated.unsubscribe {h : Host κ} (hs : h.Separated) (name : String) (c : Callback κ) :
    (h.unsubscribe name c).Separated := by
  unfold Host.unsubscribe
  split
  · rename_i event he
    exact hs.of_events_set he
  · rename_i he
    split
    · intro other ho
      by_cases hne : name = other
      · subst hne
        simp [contains, Directory.contains, he] at ho
      · exact (Directory.get?_set_of_ne _ hne _).trans (hs other ho)
    · exact hs

/-- **A host refines its register.**  It carries out the changes that the register does not refuse,
with the same effect; a refusal gives one of the register's reasons. -/
theorem edit_refines {h : Host κ} (hs : h.Separated) (e : HostEdit κ) :
    (∃ h', h.edit e = .ok h' ∧ (∀ error, ¬ h.register.Refuses e error) ∧ h'.Separated ∧
      h'.register = h.register.edit e) ∨
    ∃ error, h.edit e = .error error ∧ h.register.Refuses e error := by
  cases e with
  | create name s =>
      cases hc : h.create name s with
      | error error => exact .inr ⟨error, hc, create_error hc⟩
      | ok h' =>
          refine .inl ⟨h', hc, fun error hr => ?_, hs.create hc, register_create hc⟩
          -- one of the checks would have found each reason that the register has
          obtain ⟨hv, hn, hf, -⟩ := create_ok hc
          obtain ⟨hv₁, hv₂⟩ := Schema.validate_ok hv
          cases hr with
          | reserved hp hr => exact hv₁ _ hp hr
          | repeated hp => exact absurd hp (Nat.not_le.mpr (Nat.lt_succ_of_le
              (List.nodup_iff_count_le_one.mp hv₂ _)))
          | taken ht =>
              rw [contains_eq_isSome] at hn
              exact ht (by simpa [register] using hn)
          | listed hl hp hm =>
              simp only [register, active_eq_nil hn, List.nil_append] at hl
              exact hm (hf _ hl _ hp)
  | destroy name =>
      exact .inl ⟨_, rfl, fun error hr => (by cases hr), hs.destroy name, register_destroy hs name⟩
  | subscribe name c =>
      cases hc : h.subscribe name c with
      | error error => exact .inr ⟨error, hc, subscribe_error hc⟩
      | ok h' =>
          refine .inl ⟨h', hc, fun error hr => ?_, hs.subscribe hc, register_subscribe hs hc⟩
          cases hr with
          | unfit he hp hm => exact hm (subscribe_ok hc he _ hp)
  | unsubscribe name c =>
      exact .inl ⟨_, rfl, fun error hr => (by cases hr), hs.unsubscribe name c,
        register_unsubscribe hs name c⟩

/-! ### Histories -/

/-- The host after several changes, one after the other. -/
def afterEdits (h : Host κ) (es : List (HostEdit κ)) : Host κ := es.foldl afterEdit h

/-- What is answered to each of several changes. -/
def answers (h : Host κ) : List (HostEdit κ) → List (Except EventError Unit)
  | [] => []
  | e :: es => (h.edit e).map (fun _ => ()) :: (h.afterEdit e).answers es

theorem Separated.afterEdit {h : Host κ} (hs : h.Separated) (e : HostEdit κ) :
    (h.afterEdit e).Separated := by
  rcases edit_refines hs e with ⟨h', he, -, hs', -⟩ | ⟨error, he, -⟩
  · rw [Host.afterEdit, he]
    exact hs'
  · rw [Host.afterEdit, he]
    exact hs

theorem Separated.afterEdits {h : Host κ} (hs : h.Separated) (es : List (HostEdit κ)) :
    (h.afterEdits es).Separated := by
  induction es generalizing h with
  | nil => exact hs
  | cons e es ih => exact ih (hs.afterEdit e)

/-- Every history of a host is one of its register. -/
theorem register_run {h : Host κ} (hs : h.Separated) (es : List (HostEdit κ)) :
    Register.Run h.register es (h.answers es) (h.afterEdits es).register := by
  induction es generalizing h with
  | nil => exact .nil _
  | cons e es ih =>
      have ht := ih (hs.afterEdit e)
      rcases edit_refines hs e with ⟨h', he, hn, -, hr⟩ | ⟨error, he, hr⟩
      · rw [Host.afterEdit, he] at ht
        rw [answers, afterEdits, List.foldl_cons, Host.afterEdit, he]
        refine .done hn ?_
        rw [← hr]
        exact ht
      · rw [Host.afterEdit, he] at ht
        rw [answers, afterEdits, List.foldl_cons, Host.afterEdit, he]
        exact .refused hr ht

end Host

/-- Changes that create or destroy an event. -/
def HostEdit.IsCycling {κ : Type} : HostEdit κ → Prop
  | .create _ _ | .destroy _ => True
  | .subscribe _ _ | .unsubscribe _ _ => False

/-- The change adds no callback, and removes none, of which `p` holds. -/
def HostEdit.Misses {κ : Type} (p : Callback κ → Bool) : HostEdit κ → Prop
  | .create _ _ | .destroy _ => True
  | .subscribe _ c | .unsubscribe _ c => p c = false

/-- The name of the event that is changed. -/
def HostEdit.event {κ : Type} : HostEdit κ → String
  | .create name _ | .destroy name | .subscribe name _ | .unsubscribe name _ => name

namespace Host

variable {κ : Type} [DecidableEq κ]

theorem register_afterEdit_of_ne {h : Host κ} (hs : h.Separated) {e : HostEdit κ} {name : String}
    (hn : name ≠ e.event) : (h.afterEdit e).register name = h.register name := by
  rcases edit_refines hs e with ⟨h', hk, -, -, hr⟩ | ⟨error, hk, -⟩
  · rw [afterEdit, hk]
    refine (congrFun hr name).trans ?_
    cases e <;> exact Function.update_of_ne hn _ _
  · rw [afterEdit, hk]
    rfl

theorem callbacks_afterEdit_of_isCycling {h : Host κ} (hs : h.Separated) {e : HostEdit κ}
    (he : e.IsCycling) (name : String) :
    ((h.afterEdit e).register name).callbacks = (h.register name).callbacks := by
  rcases edit_refines hs e with ⟨h', hk, -, -, hr⟩ | ⟨error, hk, -⟩
  · rw [afterEdit, hk]
    refine (congrArg Listing.callbacks (congrFun hr name)).trans ?_
    cases e with
    | create other s | destroy other =>
        by_cases hne : name = other
        · subst hne
          simp [Register.edit, Register.file]
        · simp [Register.edit, Register.file, Function.update_of_ne hne]
    | subscribe other c | unsubscribe other c => exact he.elim
  · rw [afterEdit, hk]
    rfl

/-- Creating and destroying events moves callbacks about and keeps every list. -/
theorem callbacks_afterEdits_of_isCycling {h : Host κ} (hs : h.Separated)
    {es : List (HostEdit κ)} (he : ∀ e ∈ es, e.IsCycling) (name : String) :
    ((h.afterEdits es).register name).callbacks = (h.register name).callbacks := by
  induction es generalizing h with
  | nil => rfl
  | cons e es ih =>
      rw [List.forall_mem_cons] at he
      exact (ih (hs.afterEdit e) he.2).trans (callbacks_afterEdit_of_isCycling hs he.1 name)

theorem callbacks_subscribe {h h' : Host κ} (hs : h.Separated) {name : String} {c : Callback κ}
    (hc : h.subscribe name c = .ok h') (other : String) :
    (h'.register other).callbacks =
      (h.register other).callbacks ++ if other = name then [c] else [] := by
  rw [register_subscribe hs hc, Register.edit, Register.file]
  by_cases ho : other = name
  · subst ho
    simp
  · simp [ho]

theorem callbacks_unsubscribe {h : Host κ} (hs : h.Separated) (name : String) (c : Callback κ)
    (other : String) :
    ((h.unsubscribe name c).register other).callbacks =
      if other = name then (h.register other).callbacks.erase c
      else (h.register other).callbacks := by
  rw [register_unsubscribe hs, Register.edit, Register.file]
  by_cases ho : other = name
  · subst ho
    simp
  · simp [ho]

/-- Callbacks come and go only where they are subscribed and unsubscribed. -/
theorem filter_afterEdit_of_misses {h : Host κ} (hs : h.Separated) {p : Callback κ → Bool}
    {e : HostEdit κ} (he : e.Misses p) (name : String) :
    ((h.afterEdit e).register name).callbacks.filter p = (h.register name).callbacks.filter p := by
  rcases edit_refines hs e with ⟨h', hk, -, -, -⟩ | ⟨error, hk, -⟩
  · cases e with
    | create other s =>
        rw [callbacks_afterEdit_of_isCycling (e := .create other s) hs trivial]
    | destroy other =>
        rw [callbacks_afterEdit_of_isCycling (e := .destroy other) hs trivial]
    | subscribe other c =>
        have hp : p c = false := he
        rw [afterEdit, hk]
        refine (congrArg (List.filter p) (callbacks_subscribe hs hk name)).trans ?_
        rw [List.filter_append]
        split
        · simp [hp]
        · simp
    | unsubscribe other c =>
        -- what is erased is not among what is filtered for
        have hp : p c = false := he
        have hc : c ∉ (h.register name).callbacks.filter p := by simp [hp]
        refine (congrArg (List.filter p) (callbacks_unsubscribe hs other c name)).trans ?_
        split
        · rw [← List.erase_filter, List.erase_of_not_mem hc]
        · rfl
  · rw [afterEdit, hk]
    rfl

/-- Whoever subscribes and was not listed before leaves nothing behind when unsubscribing. -/
theorem register_unsubscribe_subscribe {h h' : Host κ} (hs : h.Separated) {name : String}
    {c : Callback κ} (hc : h.subscribe name c = .ok h') (hn : c ∉ (h.register name).callbacks) :
    (h'.unsubscribe name c).register = h.register := by
  rw [register_unsubscribe (hs.subscribe hc), register_subscribe hs hc]
  funext other
  by_cases hne : other = name
  · subst hne
    simp [Register.edit, Register.file, List.erase_append_right _ hn]
  · simp [Register.edit, Register.file, Function.update_of_ne hne]

/-- **Every history of a host is one of a register with one list per name.**  The answers are the
register's, and in the state that is reached nobody is parked for an event that exists, the active
and the parked callbacks of a name are its one list in the order of subscription, no cycle of
destroying and creating loses, doubles or moves anybody in it, and a subscription that is taken
back leaves no trace. -/
theorem history_refines (es : List (HostEdit κ)) :
    Register.Run .empty es ((empty : Host κ).answers es) (empty.afterEdits es).register ∧
    ∀ name,
      ((empty.afterEdits es).contains name = true → (empty.afterEdits es).parked name = []) ∧
      (empty.afterEdits es).active name =
        (if (empty.afterEdits es).contains name then ((empty.afterEdits es).register name).callbacks
          else []) ∧
      (empty.afterEdits es).parked name =
        (if (empty.afterEdits es).contains name then []
          else ((empty.afterEdits es).register name).callbacks) ∧
      (∀ cycles : List (HostEdit κ), (∀ e ∈ cycles, e.IsCycling) →
        (((empty.afterEdits es).afterEdits cycles).register name).callbacks =
          ((empty.afterEdits es).register name).callbacks) ∧
      ∀ (c : Callback κ) (h' : Host κ), (empty.afterEdits es).subscribe name c = .ok h' →
        c ∉ ((empty.afterEdits es).register name).callbacks →
        (h'.unsubscribe name c).register = (empty.afterEdits es).register := by
  have hs : (empty.afterEdits es : Host κ).Separated := separated_empty.afterEdits es
  refine ⟨register_run separated_empty es, fun name => ?_⟩
  obtain ⟨ha, hp⟩ := hs.active_parked name
  exact ⟨fun hc => hs.parked_eq_nil hc, ha, hp,
    fun cycles hc => callbacks_afterEdits_of_isCycling hs hc name,
    fun c h' hc hn => register_unsubscribe_subscribe hs hc hn⟩

end Host

end ChatBot
