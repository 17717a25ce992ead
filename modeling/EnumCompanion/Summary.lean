import EnumCompanion.Defect
import EnumCompanion.ModulePath
import EnumCompanion.Name
import EnumCompanion.Text.Blank

/-!
# `EnumCompanion.Summary`: what a companion is made from

A summary says all that the text of a companion depends on: where the
enum lives, its name, its variants in order, and the parameters of its
constructors in order, repetitions included.

`defect?` finds the first thing wrong with a summary, in the order: the
module path, the names (of the enum, of the variants, of the
parameters), the types of the parameters.
-/

set_option autoImplicit false

namespace EnumCompanion

/-! ### Summaries -/

/-- A parameter of a constructor: its name and the text of its type. -/
structure Parameter where
  name : String
  type : String
  deriving DecidableEq, Repr

/-- All that a companion depends on. -/
structure Summary where
  /-- The path of the module that declares the enum. -/
  scope : String
  /-- The name of the enum. -/
  name : String
  /-- The names of the variants, in order. -/
  constants : List String
  /-- The parameters of all constructors, in order. -/
  parameters : List Parameter
  deriving DecidableEq, Repr

namespace Summary

/-- The summary of an enum without variants and constructors. -/
def empty (scope name : String) : Summary := ⟨scope, name, [], []⟩

/-- Appends variants. -/
def addConstants (s : Summary) (names : List String) : Summary :=
  { s with constants := s.constants ++ names }

/-- Appends a parameter. -/
def addParameter (s : Summary) (p : Parameter) : Summary :=
  { s with parameters := s.parameters ++ [p] }

/-- The name of the companion. -/
def companionName (s : Summary) : String :=
  Name.companion s.name

/-- Where the companion lives, with dots between the segments:
`crate.calendar.Quarter_`. -/
def qualifiedName (s : Summary) : String :=
  ".".intercalate (ModulePath.segments s.scope ++ [s.companionName])

/-! ### Defects -/

/-- The names that the companion declares or refers to, in order. -/
def names (s : Summary) : List String :=
  s.name :: (s.constants ++ s.parameters.map Parameter.name)

/-- Whether a name can be declared: `crate` and its like cannot, not even
spelt raw. -/
def isDeclarable (name : String) : Bool :=
  Name.isIdentifier name && !isPathKeyword name

/-- The first thing wrong with the summary. -/
def defect? (s : Summary) : Option Defect :=
  if s.scope = "" then some .emptyNamespace
  else
    match (ModulePath.segments s.scope).find? (!Name.isIdentifier ·) with
    | some segment => some (.notAnIdentifier segment)
    | none =>
      match s.names.find? (!isDeclarable ·) with
      | some name => some (.notAnIdentifier name)
      | none =>
        (s.parameters.find? fun p => Text.isBlank p.type).map fun p => .emptyParameterType p.name

end Summary

end EnumCompanion
