import EnumCompanion.Attribute
import EnumCompanion.Path

/-!
# `EnumCompanion.Item`: items of a source file

A source file is a list of items, and so is the body of an inline
module. Of an item this library needs its attributes, its kind and its
name; of an enum also the variants, of an `impl` block the functions, of
a module the items. The rest is kept as tokens, so that an item can be
written down again: `Item.tokens` are its tokens in standard form.

An item that the grammar accepts but has no form for is kept as it was
written, and has neither attributes nor a name.
-/

set_option autoImplicit false

namespace EnumCompanion

/-! ### Enums and `impl` blocks -/

/-- A variant of an enum. -/
structure Variant where
  name : Ident
  /-- Whether it carries no fields. -/
  isUnit : Bool
  deriving DecidableEq, Repr

/-- A parameter of a function that is not its receiver. -/
structure Argument where
  /-- The name, unless a pattern stands in its place. -/
  name : Option Ident
  /-- The tokens of the type in standard form. -/
  type : List Token
  deriving DecidableEq, Repr

/-- A function in an `impl` block. -/
structure Method where
  name : Ident
  hasReceiver : Bool
  arguments : List Argument
  /-- The type of the result, if it is a path. -/
  result : Option Path
  deriving DecidableEq, Repr

/-- An `impl` block. -/
structure Implementation where
  /-- Whether it implements no trait. -/
  isInherent : Bool
  /-- The type it belongs to, if it is a path. -/
  self : Option Path
  /-- Its functions that have a body, in order. -/
  methods : List Method
  deriving DecidableEq, Repr

/-! ### Items -/

/-- The kinds of items that reports tell apart. -/
inductive Kind where
  | enum
  | struct
  | union
  | trait
  | fn
  | mod
  | typeAlias
  | other
  deriving DecidableEq, Repr

namespace Kind

/-- The word for a kind in reports. -/
def text : Kind → String
  | .enum => "enum"
  | .struct => "struct"
  | .union => "union"
  | .trait => "trait"
  | .fn => "fn"
  | .mod => "mod"
  | .typeAlias => "type_alias"
  | .other => "other"

end Kind

/-- What an item is, as far as it matters. -/
inductive Form where
  | enumeration (name : Ident) (isGeneric : Bool) (variants : List Variant)
  | implementation (block : Implementation)
  /-- A module with its items in a file of its own. -/
  | moduleFile (name : Ident)
  /-- Any other item, and its name if it has one. -/
  | plain (kind : Kind) (name : Option Ident)
  deriving DecidableEq, Repr

/-- An item. -/
inductive Item where
  /-- An item without a form, as it was written. -/
  | verbatim (tokens : List Token)
  /-- An item with its attributes, its tokens up to the body, and the
  tokens of the body if it can start with inner attributes. -/
  | leaf (attributes : List Attribute) (form : Form) (head : List Token)
      (body : Option (List Token))
  /-- A module with its items in place. -/
  | inlineModule (attributes : List Attribute) (name : Ident) (head : List Token)
      (items : List Item)
  deriving Repr

namespace Form

/-- The kind of an item of this form. -/
def kind : Form → Kind
  | .enumeration _ _ _ => .enum
  | .implementation _ => .other
  | .moduleFile _ => .mod
  | .plain kind _ => kind

/-- The name of an item of this form. -/
def name? : Form → Option Ident
  | .enumeration name _ _ => some name
  | .implementation _ => none
  | .moduleFile name => some name
  | .plain _ name => name

end Form

namespace Item

/-- The kind of an item. -/
def kind : Item → Kind
  | .verbatim _ => .other
  | .leaf _ form _ _ => form.kind
  | .inlineModule _ _ _ _ => .mod

/-- The name of an item. -/
def name? : Item → Option Ident
  | .verbatim _ => none
  | .leaf _ form _ _ => form.name?
  | .inlineModule _ name _ _ => some name

/-- The attributes of an item, inner ones included. -/
def attributes : Item → List Attribute
  | .verbatim _ => []
  | .leaf as _ _ _ => as
  | .inlineModule as _ _ _ => as

/-- The item with the attributes that pass a test. -/
def filterAttributes (p : Attribute → Bool) : Item → Item
  | .verbatim ts => .verbatim ts
  | .leaf as form head body => .leaf (as.filter p) form head body
  | .inlineModule as name head items => .inlineModule (as.filter p) name head items

/-! ### Equality -/

mutual

/-- Whether two items are the same. -/
def same : Item → Item → Bool
  | .verbatim ts, .verbatim us => ts == us
  | .leaf as f head body, .leaf bs g top rest => as == bs && f == g && head == top && body == rest
  | .inlineModule as m head items, .inlineModule bs n top others =>
    as == bs && m == n && head == top && sameAll items others
  | _, _ => false

/-- Whether two lists of items are the same. -/
def sameAll : List Item → List Item → Bool
  | [], [] => true
  | i :: items, j :: others => same i j && sameAll items others
  | _, _ => false

end

mutual

theorem same_iff : (i j : Item) → (same i j = true ↔ i = j)
  | .verbatim _, j => by cases j <;> simp [same]
  | .leaf _ _ _ _, j => by cases j <;> simp [same, and_assoc]
  | .inlineModule _ _ _ items, j => by
    cases j with
    | inlineModule bs n top others => simp [same, sameAll_iff items others, and_assoc]
    | _ => simp [same]

theorem sameAll_iff : (items others : List Item) → (sameAll items others = true ↔ items = others)
  | [], others => by cases others <;> simp [sameAll]
  | i :: items, others => by
    cases others with
    | nil => simp [sameAll]
    | cons j others => simp [sameAll, same_iff i j, sameAll_iff items others]

end

instance : DecidableEq Item := fun i j => decidable_of_iff _ (same_iff i j)

/-! ### Markers -/

/-- Whether an attribute of the item is the marker. -/
def isMarked (marker : String) (item : Item) : Bool :=
  item.attributes.any (Attribute.isMarker marker)

/-- The item without the marker. -/
def unmarked (marker : String) (item : Item) : Item :=
  item.filterAttributes (!Attribute.isMarker marker ·)

/-! ### Writing items -/

/-- The tokens of an item: the outer attributes, the head, and the body in
braces with the inner attributes in front. -/
def assemble (attributes : List Attribute) (head : List Token) (body : Option (List Token)) :
    List Token :=
  Attribute.tokensOf (attributes.filter (!·.isInner)) ++ head ++
    match body with
    | some ts =>
      Token.enclosed .brace (Attribute.tokensOf (attributes.filter (·.isInner)) ++ ts)
    | none => []

mutual

/-- The tokens of an item in standard form. -/
def tokens : Item → List Token
  | .verbatim ts => ts
  | .leaf as _ head body => assemble as head body
  | .inlineModule as _ head items => assemble as head (some (tokensOf items))

/-- The tokens of items in order. -/
def tokensOf : List Item → List Token
  | [] => []
  | item :: rest => item.tokens ++ tokensOf rest

end

end Item

end EnumCompanion
