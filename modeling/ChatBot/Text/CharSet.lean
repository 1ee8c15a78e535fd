/-!
# Sets of characters

A set of characters given by ranges of code points. Every character class of the library is one of
these, so that a class is a table and not a function written by hand.
-/

namespace ChatBot.Text

/-- A set of characters. -/
structure CharSet where
  /-- Inclusive ranges of code points. -/
  ranges : List (Nat × Nat)

/-- Whether `c` is in the set. -/
def CharSet.has (s : CharSet) (c : Char) : Bool :=
  s.ranges.any fun r => r.1 ≤ c.toNat && c.toNat ≤ r.2

end ChatBot.Text
