import EnumCompanion.Declaration
import EnumCompanion.Companion.Text
import EnumCompanion.Token.Spelled

/-!
# `EnumCompanion.Declaration.Companion`: from a declaration to its companion

The summary of an enum takes its variants from the enum and its
parameters from the constructors in its `impl` blocks: the functions
without a receiver that return `Self` or the enum by name. What is no
enum is passed over. `Declaration.companion?` goes all the way to the
text.
-/

set_option autoImplicit false

namespace EnumCompanion

/-! ### Constructors -/

/-- Whether the function makes a value of the enum with the given name. -/
def Method.isConstructor (enumName : Ident) (m : Method) : Bool :=
  !m.hasReceiver && (m.result.bind Path.last?).any fun s =>
    s.arguments.isEmpty && (s.name.text == "Self" || s.name == enumName)

/-- The parameters of a constructor. Each has to be a plain name. -/
def Method.parameters (enumName : String) (m : Method) : Except Defect (List Parameter) :=
  m.arguments.mapM fun a =>
    match a.name with
    | some name => .ok ⟨name.name, Token.spelled a.type⟩
    | none => .error (.patternParameter enumName m.name.name)

/-- The constructors among the functions of blocks, in order. -/
def constructors (enumName : Ident) (blocks : List Implementation) : List Method :=
  (blocks.flatMap Implementation.methods).filter (·.isConstructor enumName)

/-- The names of variants. None of them may carry fields. -/
def constantNames (enumName : String) (variants : List Variant) : Except Defect (List String) :=
  variants.mapM fun v =>
    if v.isUnit then .ok v.name.name else .error (.nonUnitVariant enumName v.name.name)

namespace Declaration

/-! ### Summaries -/

/-- The summary of an enum. -/
def enumSummary (d : Declaration) (name : Ident) (isGeneric : Bool) (variants : List Variant) :
    Except Defect Summary := do
  if isGeneric then throw (.genericType name.name)
  let constants ← constantNames name.name variants
  let parameters ← (constructors name d.blocks).mapM (Method.parameters name.name)
  return ⟨d.scope, name.name, constants, parameters.flatten⟩

/-- The summary of a declaration; nothing for what is no enum. -/
def summary? (d : Declaration) : Except Defect (Option Summary) :=
  if d.scope = "" then .error .emptyNamespace
  else
    match d.item with
    | .leaf _ (.enumeration name isGeneric variants) _ _ =>
      some <$> d.enumSummary name isGeneric variants
    | _ => .ok none

end Declaration

/-! ### Companions -/

/-- A companion as text, with the summary it was made from. -/
structure Companion where
  summary : Summary
  text : String
  deriving DecidableEq, Repr

namespace Companion

/-- The name of the companion with the path of its module. -/
def qualifiedName (c : Companion) : String :=
  c.summary.qualifiedName

end Companion

/-- The companion of a declaration; nothing for what is no enum. -/
def Declaration.companion? (style : Companion.Style) (d : Declaration) :
    Except Defect (Option Companion) := do
  match ← d.summary? with
  | none => return none
  | some s => return some ⟨s, ← Companion.generate style s⟩

end EnumCompanion
