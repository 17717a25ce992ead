/-!
# `EnumCompanion.Roster`: what a compiled companion answers

A roster is a type whose values are known by name and come in an order.
Its companion knows the names, finds a value by what an accessor gives for
it, and maps every value to what a function gives for it. Of several
values that fit, the first one is found; a value that is not equal to
itself is never found.
-/

set_option autoImplicit false

namespace EnumCompanion

/-- The answer of a search that finds nothing. -/
structure NoConstantFound where
  deriving DecidableEq, Repr

/-- The sentence that reports it. -/
def NoConstantFound.message (_ : NoConstantFound) : String :=
  "No constant found"

/-- The values of a type in order, and their names. -/
structure Roster (α : Type) where
  members : List α
  name : α → String

namespace Roster

variable {α β : Type}

/-- The names, in order. -/
def constants (r : Roster α) : List String :=
  r.members.map r.name

/-- The first member for which the accessor gives a value. -/
def lookup [BEq β] (r : Roster α) (accessor : α → β) (value : β) :
    Except NoConstantFound α :=
  match r.members.find? fun m => accessor m == value with
  | some m => .ok m
  | none => .error ⟨⟩

/-- Every member with what the function gives for it. -/
def associate (r : Roster α) (f : α → β) : List (α × β) :=
  r.members.map fun m => (m, f m)

end Roster

end EnumCompanion
