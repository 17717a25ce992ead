import EnumCompanion.Roster

/-!
# `EnumCompanion.Roster.Weekday`: the days of the week

Days with numbers from one and with short names. The functions that make a
day from a number or a short name are total: what they do not know is a
Sunday.
-/

set_option autoImplicit false

namespace EnumCompanion

/-- A day of the week. -/
inductive Weekday where
  | monday
  | tuesday
  | wednesday
  | thursday
  | friday
  | saturday
  | sunday
  deriving DecidableEq, Repr

namespace Weekday

/-- The day with a number. -/
def ofNumber : Nat → Weekday
  | 1 => .monday
  | 2 => .tuesday
  | 3 => .wednesday
  | 4 => .thursday
  | 5 => .friday
  | 6 => .saturday
  | _ => .sunday

/-- The day of the weekend with a short name. -/
def weekend : String → Weekday
  | "sat" => .saturday
  | _ => .sunday

/-- The number of a day. -/
def number : Weekday → Nat
  | .monday => 1
  | .tuesday => 2
  | .wednesday => 3
  | .thursday => 4
  | .friday => 5
  | .saturday => 6
  | .sunday => 7

/-- The short name of a day. -/
def shortName : Weekday → String
  | .monday => "mon"
  | .tuesday => "tue"
  | .wednesday => "wed"
  | .thursday => "thu"
  | .friday => "fri"
  | .saturday => "sat"
  | .sunday => "sun"

/-- The name of a day. -/
def name : Weekday → String
  | .monday => "Monday"
  | .tuesday => "Tuesday"
  | .wednesday => "Wednesday"
  | .thursday => "Thursday"
  | .friday => "Friday"
  | .saturday => "Saturday"
  | .sunday => "Sunday"

/-- The days in order. -/
def roster : Roster Weekday where
  members := [.monday, .tuesday, .wednesday, .thursday, .friday, .saturday, .sunday]
  name := name

end Weekday

end EnumCompanion
