/-!
# Directories

Values filed under names, in increasing order of the names. `get?` is the view: two short lemmas per
operation say what it does to the value under each name.
-/

namespace ChatBot

/-- Values under names. -/
structure Directory (α : Type) where
  /-- The names with their values. -/
  entries : List (String × α) := []

namespace Directory

variable {α : Type}

instance : Inhabited (Directory α) := ⟨{}⟩

/-- The value in a list of entries under `name`. -/
def find (name : String) : List (String × α) → Option α
  | [] => none
  | e :: es => if e.1 = name then some e.2 else find name es

/-- A list of entries with `value` under `name`, put before the first greater name. -/
def place (name : String) (value : α) : List (String × α) → List (String × α)
  | [] => [(name, value)]
  | e :: es =>
    if e.1 = name then (name, value) :: es
    else if name < e.1 then (name, value) :: e :: es
    else e :: place name value es

/-- The value under `name`. -/
def get? (d : Directory α) (name : String) : Option α := find name d.entries

/-- Whether there is a value under `name`. -/
def contains (d : Directory α) (name : String) : Bool := (d.get? name).isSome

/-- Files `value` under `name`, in place of what was there. -/
def set (d : Directory α) (name : String) (value : α) : Directory α := ⟨place name value d.entries⟩

/-- Takes out whatever is under `name`. -/
def erase (d : Directory α) (name : String) : Directory α := ⟨d.entries.filter (·.1 != name)⟩

/-- The names in use, in increasing order. -/
def names (d : Directory α) : List String := d.entries.map (·.1)

/-- The values in the order of their names. -/
def values (d : Directory α) : List α := d.entries.map (·.2)

theorem find_place_self (name : String) (value : α) (es : List (String × α)) :
    find name (place name value es) = some value := by
  induction es with
  | nil => simp [place, find]
  | cons e es ih => simp only [place]; split <;> (try split) <;> simp_all [find]

theorem find_place_of_ne {name other : String} (h : name ≠ other) (value : α)
    (es : List (String × α)) : find other (place name value es) = find other es := by
  induction es with
  | nil => simp [place, find, h]
  | cons e es ih => simp only [place]; split <;> (try split) <;> simp_all [find]

@[simp] theorem get?_set_self (d : Directory α) (name : String) (value : α) :
    (d.set name value).get? name = some value := find_place_self name value d.entries

theorem get?_set_of_ne (d : Directory α) {name other : String} (h : name ≠ other) (value : α) :
    (d.set name value).get? other = d.get? other := find_place_of_ne h value d.entries

@[simp] theorem get?_erase_self (d : Directory α) (name : String) :
    (d.erase name).get? name = none := by
  obtain ⟨es⟩ := d
  simp only [get?, erase]
  induction es with
  | nil => rfl
  | cons e es ih => by_cases h : e.1 = name <;> simp_all [find]

theorem get?_erase_of_ne (d : Directory α) {name other : String} (h : name ≠ other) :
    (d.erase name).get? other = d.get? other := by
  obtain ⟨es⟩ := d
  simp only [get?, erase]
  induction es with
  | nil => rfl
  | cons e es ih => by_cases h' : e.1 = name <;> simp_all [find]

theorem get?_set (d : Directory α) (name other : String) (value : α) :
    (d.set name value).get? other = if name = other then some value else d.get? other := by
  split
  · rename_i h; subst h; exact get?_set_self d name value
  · rename_i h; exact get?_set_of_ne d h value

theorem get?_erase (d : Directory α) (name other : String) :
    (d.erase name).get? other = if name = other then none else d.get? other := by
  split
  · rename_i h; subst h; exact get?_erase_self d name
  · rename_i h; exact get?_erase_of_ne d h

end Directory

end ChatBot
