import EnumCompanion.Roster

/-!
# `EnumCompanion.Roster.Planet`: planets with measures of several kinds

The measures try out equality: a zero with a sign, a value that two
planets share, and a mass that is no number and so equals none.
-/

set_option autoImplicit false

namespace EnumCompanion

/-- A planet. -/
inductive Planet where
  | mercury
  | venus
  | earth
  | mars
  deriving DecidableEq, Repr

namespace Planet

/-- The order of a planet. -/
def order : Planet → Int
  | .mercury => 1
  | .venus => -2
  | .earth => 9223372036854775807
  | .mars => -9223372036854775808

/-- The mass of a planet. -/
def mass : Planet → Float
  | .mercury => -0.0
  | .venus => 0.815
  | .earth => 0.815
  | .mars => 0.0 / 0.0

/-- Whether a planet is rocky. -/
def rocky : Planet → Bool
  | .mercury => false
  | .venus => true
  | .earth => true
  | .mars => true

/-- The label of a planet. -/
def label : Planet → String
  | .mercury => "☿"
  | .venus => ""
  | .earth => "🜨"
  | .mars => "a\"b"

/-- The name of a planet. -/
def name : Planet → String
  | .mercury => "Mercury"
  | .venus => "Venus"
  | .earth => "Earth"
  | .mars => "Mars"

/-- The planets in order. -/
def roster : Roster Planet where
  members := [.mercury, .venus, .earth, .mars]
  name := name

end Planet

end EnumCompanion
