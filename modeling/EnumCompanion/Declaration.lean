import EnumCompanion.Item
import EnumCompanion.ModulePath

/-!
# `EnumCompanion.Declaration`: marked items and where they stand

A declaration is an item that carries a marker, with the path of its
module and the inherent `impl` blocks that stand beside it. Blocks
belong to an item when their type is a path that ends in its name, spelt
the same way.
-/

set_option autoImplicit false

namespace EnumCompanion

/-- A marked item. -/
structure Declaration where
  /-- The path of the module it stands in. -/
  scope : String
  item : Item
  /-- The inherent `impl` blocks of the same module that belong to it, in
  order. -/
  blocks : List Implementation
  deriving Repr

/-! ### `impl` blocks -/

/-- Whether the block implements no trait and belongs to the name. -/
def Implementation.belongsTo (name : Ident) (b : Implementation) : Bool :=
  b.isInherent && (b.self.bind Path.last?).any (·.name == name)

/-- The `impl` block that an item is. -/
def Item.block? : Item → Option Implementation
  | .leaf _ (.implementation b) _ _ => some b
  | _ => none

/-- The inherent `impl` blocks among the items that belong to a name. -/
def inherentBlocks (items : List Item) (name : Ident) : List Implementation :=
  (items.filterMap Item.block?).filter (·.belongsTo name)

namespace Declaration

/-! ### Declarations of a module -/

/-- The declaration of an item among others. -/
def among (scope : String) (items : List Item) (item : Item) : Declaration where
  scope := scope
  item := item
  blocks := (item.name?.map (inherentBlocks items)).getD []

/-- The declarations of the items that carry the marker, in order. -/
def marked (scope marker : String) (items : List Item) : List Declaration :=
  (items.filter (·.isMarked marker)).map (among scope items)

/-! ### Names of declarations -/

/-- The kind of the item. -/
def kind (d : Declaration) : Kind :=
  d.item.kind

/-- Where the item stands, for reports: the path of its module and its
name, or its kind if it has no name. -/
def place (d : Declaration) : String :=
  match d.item.name? with
  | some name => d.scope ++ "::" ++ name.text
  | none => d.scope ++ "::<" ++ d.kind.text ++ ">"

end Declaration

end EnumCompanion
