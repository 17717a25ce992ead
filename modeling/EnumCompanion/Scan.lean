import EnumCompanion.Declaration

/-!
# `EnumCompanion.Scan`: the declarations and modules of a file

Scanning a file finds the marked items in it and in its inline modules,
and the modules that have files of their own. Of each module the marked
items come first, in order, and then what its inline modules hold, in
order; modules in files come in the order of the text.
-/

set_option autoImplicit false

namespace EnumCompanion

/-- A module with a file of its own, and where it is declared. -/
structure ModuleFile where
  /-- The path of the module. -/
  scope : String
  /-- The inline modules around the declaration, from the outermost. -/
  around : List String
  name : String
  /-- The file that an attribute names. -/
  path : Option String
  deriving DecidableEq, Repr

/-- What scanning finds. -/
structure Scan where
  declarations : List Declaration
  modules : List ModuleFile
  deriving Repr

namespace Scan

/-- Nothing. -/
def empty : Scan := ⟨[], []⟩

/-- What is found first, and what is found then. -/
def append (a b : Scan) : Scan :=
  ⟨a.declarations ++ b.declarations, a.modules ++ b.modules⟩

/-- The path of a module in another. -/
def inner (scope name : String) : String :=
  scope ++ "::" ++ name

/-- The file that the first `path` attribute names, if its value is a
literal string. -/
def pathOf (attributes : List Attribute) : Option String :=
  (attributes.find? (·.isNamed "path")).bind Attribute.value

mutual

/-- What is found inside an item. -/
def ofItem (marker scope : String) (around : List String) : Item → Scan
  | .inlineModule _ name _ items =>
    append ⟨Declaration.marked (inner scope name.name) marker items, []⟩
      (ofItems marker (inner scope name.name) (around ++ [name.name]) items)
  | .leaf attributes (.moduleFile name) _ _ =>
    ⟨[], [⟨inner scope name.name, around, name.name, pathOf attributes⟩]⟩
  | _ => empty

/-- What is found inside items, in order. -/
def ofItems (marker scope : String) (around : List String) : List Item → Scan
  | [] => empty
  | item :: rest =>
    append (ofItem marker scope around item) (ofItems marker scope around rest)

end

/-- What is found in a file with the given items. -/
def file (marker scope : String) (items : List Item) : Scan :=
  append ⟨Declaration.marked scope marker items, []⟩ (ofItems marker scope [] items)

end Scan

end EnumCompanion
