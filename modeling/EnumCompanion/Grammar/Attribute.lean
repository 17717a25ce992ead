import EnumCompanion.Grammar.Tree
import EnumCompanion.Text.Quoted

/-!
# `EnumCompanion.Grammar.Attribute`: attributes and blocks

An attribute is a path in brackets behind `#`, with arguments, with a
value, or with nothing. The value is a literal or any expression. Blocks
are here too, because some may begin with inner attributes.
-/

set_option autoImplicit false

namespace EnumCompanion.Grammar

open Rule

/-! ### Plain paths -/

/-- The words that start a path and are no names. -/
def pathStarts : List String :=
  ["super", "self", "Self", "crate"]

/-- A name, or one of the words that start a path. -/
def Ahead.pathName : Ahead :=
  anyOf [name, words pathStarts]

/-- A path without arguments, as it stands in front of a macro's `!` or
in an attribute. -/
def plainPath : Rule Path := do
  let start ← optionalMark "::"
  let entries ← chainUntil (Ahead.no Ahead.pathName) anyWord (Ahead.mark "::") (mark "::")
  match entries.getLast? with
  | some ⟨_, []⟩ =>
    return {
      isGlobal := !start.isEmpty
      segments := entries.map fun e => ⟨e.value, .none⟩
      tokens := start ++ entries.flatMap fun e => .ident e.value :: e.separator }
  | _ => failure

/-! ### Attributes -/

/-- The path of an attribute; one word that is no name may stand for it. -/
def attributePath : Rule Path := do
  if ← sees (Ahead.word "unsafe") then
    let i ← anyWord
    return ⟨false, [⟨i, .none⟩], [.ident i]⟩
  else plainPath

/-- The value of an attribute, and the text of a literal string. -/
def attributeValue (g : Rules) : Rule (List Token × Option String) := fun ts =>
  match ts with
  | [.literal s] => some (([.literal s], Text.stringValue? s), [])
  | _ =>
    match literal ts with
    | some (tokens, []) => some ((tokens, none), [])
    | _ =>
      if Ahead.mark "#" ts && Ahead.second (Ahead.group .bracket) ts then none
      else (do return ((← g.expression true).tokens, none)) ts

/-- What stands in the brackets of an attribute. -/
def attributeContent (g : Rules) (isInner : Bool) : Rule Attribute := do
  let path ← attributePath
  let names := path.segments.map Segment.name
  if ← sees Ahead.anyGroup then
    return ⟨isInner, path.isGlobal, names, none, path.tokens ++ (← anyGroup)⟩
  else if ← sees (Ahead.mark "=") then
    let eq ← mark "="
    let (value, text) ← attributeValue g
    return ⟨isInner, path.isGlobal, names, text, path.tokens ++ eq ++ value⟩
  else
    return ⟨isInner, path.isGlobal, names, none, path.tokens⟩

/-- An attribute behind the marks that introduce it. -/
def attributeAfter (g : Rules) (isInner : Bool) (start : Phrase) : Rule Attribute := do
  let start ← start
  let a ← inside .bracket (attributeContent g isInner)
  return { a with tokens := start ++ Token.enclosed .bracket a.tokens }

/-- The marks of an inner attribute. -/
def Ahead.innerAttribute : Ahead :=
  (mark "#").both (second (mark "!"))

/-- The attributes in front of something. -/
def outerAttributes (g : Rules) : Rule (List Attribute) :=
  repeatUntil (Ahead.no (Ahead.mark "#")) (attributeAfter g false (mark "#"))

/-- The attributes at the beginning of a body. -/
def innerAttributes (g : Rules) : Rule (List Attribute) :=
  repeatUntil (Ahead.no Ahead.innerAttribute)
    (attributeAfter g true (join [mark "#", mark "!"]))

/-- The tokens of the attributes in front of something. -/
def outer (g : Rules) : Phrase := do
  return Attribute.tokensOf (← outerAttributes g)

/-- The tokens of the attributes at the beginning of a body. -/
def inner (g : Rules) : Phrase := do
  return Attribute.tokensOf (← innerAttributes g)

/-! ### Blocks -/

/-- Statements in braces. -/
def block (g : Rules) : Phrase :=
  enclosed .brace g.statements

/-- Statements in braces, which may begin with attributes. -/
def attributedBlock (g : Rules) : Phrase :=
  enclosed .brace (join [inner g, g.statements])

/-! ### Macros -/

/-- The mark of a macro. -/
def Ahead.bang : Ahead :=
  (mark "!").but (mark "!=")

/-- The mark and the arguments of a macro, as they were written. -/
def macroArguments : Phrase :=
  join [mark "!", anyGroup]

end EnumCompanion.Grammar
