/-!
# `EnumCompanion.Text.CodeSet`: sets of characters as turning points

A set of code points is kept as the ascending list of the points at
which membership turns over: the first number is the first member, the
second the first code point past that run, and so on. A character is a
member when an odd number of turning points lie at or below it.
-/

set_option autoImplicit false

namespace EnumCompanion.Text

/-- A set of code points, given by its turning points in ascending order. -/
structure CodeSet where
  turns : List Nat

namespace CodeSet

/-- Walks the turning points up to `c`, turning membership over at each. -/
def walk (c : Nat) : List Nat → Bool → Bool
  | [], inside => inside
  | t :: rest, inside => if c < t then inside else walk c rest (!inside)

/-- Whether the character is in the set. -/
def contains (s : CodeSet) (c : Char) : Bool :=
  walk c.toNat s.turns false

end CodeSet

end EnumCompanion.Text
