import EnumCompanion.Defect

/-!
# `EnumCompanion.Expansion.Fault`: what an expansion reports

An expansion puts its faults behind the tokens it keeps. Each has a
message, except for tokens that do not follow the grammar: of these only
the fact is known here, as the words for it are those of the parser. So is
the reason why a companion's text is no source text, which its message
ends with.
-/

set_option autoImplicit false

namespace EnumCompanion

/-- What an expansion reports. -/
inductive Fault where
  /-- The arguments, or the item, do not follow the grammar. -/
  | ungrammatical
  /-- An argument has a key that does not exist. -/
  | unknownKey
  /-- The given module path is blank. -/
  | blankScope
  /-- The module has its items in a file of its own. -/
  | moduleFile (name : String)
  /-- An enum can have no companion. -/
  | defect (d : Defect)
  /-- The text of a companion is no source text. -/
  | unreadable (qualifiedName : String)
  deriving DecidableEq, Repr

namespace Fault

/-- The message of a fault, up to the words of the parser. -/
def message? : Fault → Option String
  | .ungrammatical => none
  | .unknownKey =>
    some ("expected " ++ Defect.quoted "namespace = \"...\"" ++ " or " ++
      Defect.quoted "runtime = \"...\"")
  | .blankScope => some "namespace must not be empty"
  | .moduleFile name =>
    some (Defect.quoted "#[enum_enhancer]" ++ " cannot see the items of " ++
      Defect.quoted ("mod " ++ name ++ ";") ++
      "; give the module an inline body or generate its companions from build.rs")
  | .defect d => some d.message
  | .unreadable qualifiedName =>
    some ("Generated companion " ++ Defect.quoted qualifiedName ++ " does not parse")

end Fault

end EnumCompanion
