/-!
# `EnumCompanion.Defect`: why an enum gets no companion

Each way in which an enum, or a summary of one, can be unfit, and the
sentence that reports it.
-/

set_option autoImplicit false

namespace EnumCompanion

/-- What makes an enum or its summary unfit for a companion. -/
inductive Defect where
  /-- The module path is empty. -/
  | emptyNamespace
  /-- A name or a segment of the module path is no identifier, or cannot
  be declared. -/
  | notAnIdentifier (text : String)
  /-- The type of a parameter is blank. -/
  | emptyParameterType (parameter : String)
  /-- The enum declares generic parameters. -/
  | genericType (enumName : String)
  /-- A variant carries fields. -/
  | nonUnitVariant (enumName variant : String)
  /-- A constructor has a parameter that is not a plain name. -/
  | patternParameter (enumName constructor : String)
  deriving DecidableEq, Repr

namespace Defect

/-- A text between the marks that set names off in messages. -/
def quoted (s : String) : String :=
  "\x60" ++ s ++ "\x60"

/-- The sentence that reports the defect. -/
def message : Defect → String
  | .emptyNamespace => "Namespace must not be empty"
  | .notAnIdentifier text => quoted text ++ " is not a valid identifier"
  | .emptyParameterType parameter => "Parameter " ++ quoted parameter ++ " has an empty type"
  | .genericType enumName =>
    quoted enumName ++ " declares generic parameters; generic enums cannot be enhanced"
  | .nonUnitVariant enumName variant =>
    "Variant " ++ quoted variant ++ " of " ++ quoted enumName ++
      " carries fields; only unit variants can be enhanced"
  | .patternParameter enumName constructor =>
    "A parameter of constructor " ++ quoted (enumName ++ "::" ++ constructor) ++
      " is not a plain identifier"

end Defect

end EnumCompanion
