import ChatBot.Command.Registry
import ChatBot.Proofs.Directory

/-!
# What a registry lists can be found in it

Commands are registered, get callbacks and are unregistered again.  Whatever the history, a registry
files each command under its own name, which is one word, so that the list of all commands and the
look-up of one of them tell the same.

* `Registry.IsKept.afterEdits`: every history keeps the registry in this order.
* `Registry.IsKept.mem_list_iff`: who is in the list.
-/

namespace ChatBot

variable {κ : Type}

/-- A call that may change a registry. -/
inductive RegistryEdit (κ : Type) where
  /-- Registers a name. -/
  | register (owner name description : String)
  /-- Puts down who answers a name. -/
  | attach (name : String) (callback : Callback κ)
  /-- Takes a name out. -/
  | unregister (name : String)

namespace Registry

/-- A registry after a call.  A name that is refused changes nothing. -/
def edit (r : Registry κ) : RegistryEdit κ → Registry κ
  | .register owner name description =>
    match r.register owner name description with
    | .ok (_, r') => r'
    | .error _ => r
  | .attach name callback => r.attach name callback
  | .unregister name => (r.unregister name).2

/-- A registry after some calls. -/
def afterEdits (r : Registry κ) (es : List (RegistryEdit κ)) : Registry κ := es.foldl edit r

/-- Every command is filed under its own name, which is one word. -/
structure IsKept (r : Registry κ) : Prop where
  sorted : r.Sorted
  titled : ∀ name g, r.get? name = some g → g.info.name = name ∧ isCommandName name = true

namespace IsKept

variable {r : Registry κ}

theorem empty : IsKept ({} : Registry κ) where
  sorted := Directory.sorted_empty
  titled _ _ h := by cases h

theorem set (hr : r.IsKept) {name : String} {g : Registration κ} (hg : g.info.name = name)
    (hn : isCommandName name = true) : IsKept (r.set name g) where
  sorted := hr.sorted.set name g
  titled other g' h := by
    rw [Directory.get?_set] at h
    split at h
    · rename_i he
      cases h
      exact he ▸ ⟨hg, hn⟩
    · exact hr.titled other g' h

theorem erase (hr : r.IsKept) (name : String) : IsKept (r.erase name) where
  sorted := hr.sorted.erase name
  titled other g h := by
    rw [Directory.get?_erase] at h
    split at h
    · cases h
    · exact hr.titled other g h

theorem edit (hr : r.IsKept) (e : RegistryEdit κ) : (r.edit e).IsKept := by
  cases e with
  | register owner name description =>
      rw [Registry.edit, Registry.register]
      cases hn : isCommandName name with
      | false => exact hr
      | true =>
          cases r.contains name with
          | false => exact hr.set rfl hn
          | true => exact hr
  | attach name callback =>
      rw [Registry.edit, Registry.attach]
      cases hg : r.get? name with
      | none => exact hr
      | some g =>
          obtain ⟨ht, hn⟩ := hr.titled name g hg
          exact hr.set ht hn
  | unregister name => exact hr.erase name

/-- **Every history keeps a registry in order.** -/
theorem afterEdits (hr : r.IsKept) (es : List (RegistryEdit κ)) : (r.afterEdits es).IsKept := by
  induction es generalizing r with
  | nil => exact hr
  | cons e es ih => exact ih (hr.edit e)

theorem info?_eq_some (hr : r.IsKept) {name : String} {c : CommandInfo}
    (h : r.info? name = some c) : c.name = name ∧ isCommandName name = true := by
  obtain ⟨g, hg, rfl⟩ := Option.map_eq_some_iff.mp h
  exact hr.titled name g hg

/-- The list holds what is found under its own name. -/
theorem mem_list_iff (hr : r.IsKept) {c : CommandInfo} :
    c ∈ r.list ↔ r.info? c.name = some c := by
  rw [Registry.list, Registry.info?, Directory.values, List.map_map, List.mem_map,
    Option.map_eq_some_iff]
  constructor
  · rintro ⟨⟨name, g⟩, hm, rfl⟩
    have hg : r.get? name = some g := hr.sorted.mem_entries_iff.mp hm
    exact ⟨g, (hr.titled name g hg).1 ▸ hg, rfl⟩
  · rintro ⟨g, hg, rfl⟩
    exact ⟨(g.info.name, g), hr.sorted.mem_entries_iff.mpr hg, rfl⟩

end IsKept

end Registry

end ChatBot
