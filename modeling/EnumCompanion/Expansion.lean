import EnumCompanion.Expansion.Options
import EnumCompanion.Declaration.Companion
import EnumCompanion.SourceText
import EnumCompanion.Text.Quoted

/-!
# `EnumCompanion.Expansion`: companions put next to their enums

The attribute `enum_enhancer` on an inline module appends companions to
every module of the tree, each behind the items of the module that
declares its enum, and takes the marker away. On an enum it puts the
companion behind the enum. Other items stay as they are; a module in a
file of its own is a fault, as its items cannot be seen.

The attribute `companion` only marks, and expands to its item as it is
written.
-/

set_option autoImplicit false

namespace EnumCompanion

/-- What an attribute puts in place of its item. -/
structure Expansion where
  /-- The tokens that are kept or added. -/
  kept : List Token
  /-- What is reported behind them, in order. -/
  faults : List Fault
  deriving Repr

namespace Expansion

/-- The marker that is expanded in place. -/
def marker : String := "enum_enhancer"

/-! ### Companions as items -/

/-- The items of a declaration's companion; none for what is no enum. -/
def companionItems (style : Companion.Style) (d : Declaration) : Except Fault (List Item) :=
  match d.companion? style with
  | .error e => .error (.defect e)
  | .ok none => .ok []
  | .ok (some c) =>
    match SourceText.items? c.text with
    | some items => .ok items
    | none => .error (.unreadable c.qualifiedName)

/-- The items of the companions of declarations, and the faults of those
that have none. -/
def companions (style : Companion.Style) : List Declaration → List Item × List Fault
  | [] => ([], [])
  | d :: rest =>
    let (items, faults) := companions style rest
    match companionItems style d with
    | .ok found => (found ++ items, faults)
    | .error fault => (items, fault :: faults)

/-! ### Modules -/

mutual

/-- An item of the module with the given path, without the marker and with
companions in the modules inside it, and the faults found there. -/
def expandItem (style : Companion.Style) (scope : String) : Item → Item × List Fault
  | .inlineModule attributes name head items =>
    let inner := scope ++ "::" ++ name.name
    let (added, faults) := companions style (Declaration.marked inner marker items)
    let (items, deeper) := expandItems style inner items
    (.inlineModule (attributes.filter (!Attribute.isMarker marker ·)) name head (items ++ added),
      faults ++ deeper)
  | .leaf attributes form head body =>
    (.leaf (attributes.filter (!Attribute.isMarker marker ·)) form head body, [])
  | .verbatim ts => (.verbatim ts, [])

/-- Items of the module with the given path, likewise. -/
def expandItems (style : Companion.Style) (scope : String) : List Item → List Item × List Fault
  | [] => ([], [])
  | item :: rest =>
    let (item, faults) := expandItem style scope item
    let (rest, more) := expandItems style scope rest
    (item :: rest, faults ++ more)

end

/-- The items of a module with companions, and the faults. -/
def moduleItems (style : Companion.Style) (scope : String) (items : List Item) :
    List Item × List Fault :=
  let (added, faults) := companions style (Declaration.marked scope marker items)
  let (items, deeper) := expandItems style scope items
  (items ++ added, faults ++ deeper)

/-! ### Attributes -/

/-- The expansion of an item. -/
def ofItem (o : Options) (item : Item) : Expansion :=
  match item with
  | .inlineModule attributes name head items =>
    let (items, faults) := moduleItems o.style (o.scope.getD name.name) items
    ⟨(Item.inlineModule attributes name head items).tokens, faults⟩
  | .leaf _ (.moduleFile name) _ _ => ⟨[], [.moduleFile name.text]⟩
  | .leaf _ (.enumeration _ _ _) _ _ =>
    match companionItems o.style ⟨o.scope.getD "self", item, []⟩ with
    | .ok added => ⟨item.tokens ++ Item.tokensOf added, []⟩
    | .error fault => ⟨item.tokens, [fault]⟩
  | _ => ⟨item.tokens, []⟩

/-- The expansion of the attribute `enum_enhancer` with the given arguments
on the given tokens. -/
def enhancer (arguments input : List Token) : Expansion :=
  match Options.read arguments with
  | .error fault => ⟨[], [fault]⟩
  | .ok o =>
    match Grammar.item? input with
    | some item => ofItem o item
    | none => ⟨[], [.ungrammatical]⟩

/-- The expansion of the attribute `companion`. -/
def mark (input : List Token) : Expansion :=
  ⟨input, []⟩

/-! ### Tokens -/

/-- The message of a fault as a literal, if it has one of its own. -/
def messageOf (fault : Fault) : List Token :=
  match fault.message? with
  | some message => [.literal (Text.encode message)]
  | none => []

/-- The macro that reports a fault, with the message in braces. -/
def report (fault : Fault) : List Token :=
  Token.operator "::" ++ Token.word "core" ++ Token.operator "::" ++ Token.word "compile_error" ++
    Token.operator "!" ++ Token.enclosed .brace (messageOf fault)

/-- The tokens of an expansion: what it keeps, and a report for each
fault. -/
def tokens (e : Expansion) : List Token :=
  e.kept ++ e.faults.flatMap report

end Expansion

end EnumCompanion
