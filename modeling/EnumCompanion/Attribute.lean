import EnumCompanion.Token

/-!
# `EnumCompanion.Attribute`: attributes of items

An attribute stands in front of an item, or at the beginning of its body
and is then an inner one. It has a path and may have a value or
arguments. A marker is recognised by the last name of the path, so it
may be written with any path in front.
-/

set_option autoImplicit false

namespace EnumCompanion

/-- An attribute. -/
structure Attribute where
  isInner : Bool
  /-- Whether the path starts with `::`. -/
  isGlobal : Bool
  /-- The names of the path. -/
  names : List Ident
  /-- The value, if it is one literal string. -/
  value : Option String
  /-- The tokens in standard form. -/
  tokens : List Token
  deriving DecidableEq, Repr

namespace Attribute

/-- The path as text. -/
def pathText (a : Attribute) : String :=
  (if a.isGlobal then "::" else "") ++ "::".intercalate (a.names.map Ident.text)

/-- Whether the path ends in the name of the marker. -/
def isMarker (marker : String) (a : Attribute) : Bool :=
  a.names.getLast?.any fun n => n.text == marker

/-- Whether the path is the given name and nothing else. -/
def isNamed (name : String) (a : Attribute) : Bool :=
  !a.isGlobal && a.names == [.plain name]

/-- The tokens of attributes in order. -/
def tokensOf (attributes : List Attribute) : List Token :=
  attributes.flatMap Attribute.tokens

end Attribute

end EnumCompanion
