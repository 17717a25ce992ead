import EnumCompanion.Roster

/-!
# `EnumCompanion.Roster.Shift`: the shifts of a day
-/

set_option autoImplicit false

namespace EnumCompanion

/-- A shift. -/
inductive Shift where
  | early
  | late
  | night
  deriving DecidableEq, Repr

namespace Shift

/-- The position of a shift in the day. -/
def number : Shift → Nat
  | .early => 0
  | .late => 1
  | .night => 2

/-- The name of a shift. -/
def name : Shift → String
  | .early => "Early"
  | .late => "Late"
  | .night => "Night"

/-- The shifts in order. -/
def roster : Roster Shift where
  members := [.early, .late, .night]
  name := name

end Shift

end EnumCompanion
