/-!
# Scopes

The variables that one level of an expression can see: its own, and those its parent had when the
level was entered.
-/

namespace ChatBot

/-- Variables with their values, the latest first. -/
abbrev Bindings := List (String × String)

/-- The variables of one level. -/
inductive Scope where
  /-- The outermost level. -/
  | root (own : Bindings)
  /-- A level inside `parent`, as `parent` was when the level was entered. -/
  | inside (parent : Scope) (own : Bindings)
  deriving DecidableEq, Repr

namespace Scope

/-- A scope without variables. -/
def empty : Scope := .root []

instance : Inhabited Scope := ⟨empty⟩

/-- The variables bound on this very level. -/
def own : Scope → Bindings
  | .root own => own
  | .inside _ own => own

/-- A level inside this one. What is bound here later does not show there. -/
def child (s : Scope) : Scope := .inside s []

/-- Binds `name` on this level. -/
def insert (s : Scope) (name value : String) : Scope :=
  match s with
  | .root own => .root ((name, value) :: own)
  | .inside parent own => .inside parent ((name, value) :: own)

/-- The value of `name`: this level's, else the parent's. -/
def lookup (name : String) : Scope → Option String
  | .root own => own.lookup name
  | .inside parent own => (own.lookup name).or (lookup name parent)

end Scope

end ChatBot
