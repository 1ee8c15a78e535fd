import ChatBot.Bot.RoundTrip
import ChatBot.Proofs.Event.Register

/-!
# Who listens for replies

A round trip listens through a callback that serves its inbox.  Others may change the host as they
like, as long as they keep away from such callbacks.

* `Host.Serves`: the callbacks of inboxes that a host has are those of the round trips, one for
  each, and they listen to sent messages only.
* `Host.Serves.subscribe`, `Host.Serves.unsubscribe`, `Host.Serves.edit`: a round trip begins, one
  ends, others do something.
-/

namespace ChatBot

/-! ### Callbacks of inboxes -/

/-- The inbox that a callback serves, with its address. -/
def Callback.inbox? (c : Callback Handler) : Option (Nat × CorrelationId) :=
  match c.target.ident with
  | .inbox listener address => some (listener, address)
  | _ => none

/-- Whether a callback serves an inbox with address `a`. -/
def Callback.serves (a : CorrelationId) (c : Callback Handler) : Bool := c.inbox?.any (·.2 == a)

/-- A change by someone who has nothing to do with inboxes. -/
def HostEdit.IsForeign : HostEdit Handler → Prop
  | .create _ _ | .destroy _ => True
  | .subscribe _ c | .unsubscribe _ c => c.inbox? = none

@[simp] theorem inbox?_inboxCallback (listener : Nat) (a : CorrelationId) :
    (inboxCallback listener a).inbox? = some (listener, a) := rfl

theorem Callback.serves_iff {a : CorrelationId} {c : Callback Handler} :
    c.serves a = true ↔ ∃ listener, c.inbox? = some (listener, a) := by
  rw [serves]
  cases c.inbox? with
  | none => simp
  | some i =>
      obtain ⟨listener, b⟩ := i
      simp

theorem Callback.serves_of_none {a : CorrelationId} {c : Callback Handler}
    (hc : c.inbox? = none) : c.serves a = false := by
  rw [serves, hc]
  rfl

@[simp] theorem serves_inboxCallback (listener : Nat) (a b : CorrelationId) :
    (inboxCallback listener b).serves a = decide (b = a) := rfl

/-- Changes by others leave those callbacks alone that serve inboxes. -/
theorem Host.filter_afterEdit {h : Host Handler} (hs : h.Separated) {e : HostEdit Handler}
    (he : e.IsForeign) {p : Callback Handler → Bool} (hp : ∀ c, c.inbox? = none → p c = false)
    (name : String) :
    ((h.afterEdit e).register name).callbacks.filter p = (h.register name).callbacks.filter p := by
  refine filter_afterEdit_of_misses hs ?_ name
  cases e with
  | create | destroy => trivial
  | subscribe _ c | unsubscribe _ c => exact hp c he

/-! ### The callbacks of round trips -/

/-- The inboxes that a host serves are those of round trips, each with one callback, and they are
served on sent messages only. -/
structure Host.Serves (h : Host Handler) (roundTrip? : CorrelationId → Option Nat) : Prop where
  separated : h.Separated
  elsewhere : ∀ name, name ≠ CoreEvent.onMessageSent.name →
    ∀ c ∈ (h.register name).callbacks, c.inbox? = none
  listed : ∀ a, (h.register CoreEvent.onMessageSent.name).callbacks.filter (·.serves a) =
    (roundTrip? a).toList.map (inboxCallback · a)

namespace Host.Serves

variable {h : Host Handler} {r : CorrelationId → Option Nat}

theorem eq_inboxCallback (hs : h.Serves r) {name : String} {c : Callback Handler}
    (hc : c ∈ (h.register name).callbacks) {listener : Nat} {a : CorrelationId}
    (hi : c.inbox? = some (listener, a)) : c = inboxCallback listener a := by
  by_cases hn : name = CoreEvent.onMessageSent.name
  · subst hn
    have hm : c ∈ (h.register CoreEvent.onMessageSent.name).callbacks.filter (·.serves a) :=
      List.mem_filter.mpr ⟨hc, Callback.serves_iff.mpr ⟨listener, hi⟩⟩
    rw [hs.listed, List.mem_map] at hm
    obtain ⟨other, -, rfl⟩ := hm
    rw [inbox?_inboxCallback] at hi
    cases hi
    rfl
  · rw [hs.elsewhere name hn c hc] at hi
    cases hi

theorem edit (hs : h.Serves r) {e : HostEdit Handler} (he : e.IsForeign) :
    (h.afterEdit e).Serves r where
  separated := hs.separated.afterEdit e
  elsewhere name hn c hc := by
    by_contra hi
    have hm : c ∈ ((h.afterEdit e).register name).callbacks.filter (·.inbox?.isSome) :=
      List.mem_filter.mpr ⟨hc, Option.isSome_iff_ne_none.mpr hi⟩
    rw [filter_afterEdit hs.separated he fun c hc => by rw [hc]; rfl] at hm
    exact hi (hs.elsewhere name hn c (List.mem_filter.mp hm).1)
  listed a := by
    rw [filter_afterEdit hs.separated he fun c hc => Callback.serves_of_none hc]
    exact hs.listed a

theorem subscribe (hs : h.Serves r) {h' : Host Handler} {listener : Nat} {a : CorrelationId}
    (hc : h.subscribe CoreEvent.onMessageSent.name (inboxCallback listener a) = .ok h')
    (hn : r a = none) : h'.Serves (Function.update r a (some listener)) where
  separated := hs.separated.subscribe hc
  elsewhere name hne c hm := by
    rw [callbacks_subscribe hs.separated hc, if_neg hne, List.append_nil] at hm
    exact hs.elsewhere name hne c hm
  listed b := by
    rw [callbacks_subscribe hs.separated hc, if_pos rfl, List.filter_append, hs.listed b]
    by_cases hb : b = a
    · subst hb
      simp [hn]
    · simp [hb, Ne.symm hb]

theorem unsubscribe (hs : h.Serves r) {listener : Nat} {a : CorrelationId}
    (hr : r a = some listener) :
    (h.unsubscribe CoreEvent.onMessageSent.name (inboxCallback listener a)).Serves
      (Function.update r a none) where
  separated := hs.separated.unsubscribe _ _
  elsewhere name hne c hm := by
    rw [callbacks_unsubscribe hs.separated, if_neg hne] at hm
    exact hs.elsewhere name hne c hm
  listed b := by
    rw [callbacks_unsubscribe hs.separated, if_pos rfl, ← List.erase_filter, hs.listed b]
    by_cases hb : b = a
    · subst hb
      simp [hr]
    · rw [Function.update_of_ne hb]
      refine List.erase_of_not_mem fun hm => hb ?_
      obtain ⟨other, -, he⟩ := List.mem_map.mp hm
      have hi := congrArg Callback.inbox? he
      rw [inbox?_inboxCallback, inbox?_inboxCallback] at hi
      cases hi
      rfl

end Host.Serves

end ChatBot
