import EnumCompanion.Token

/-!
# `EnumCompanion.Path`: paths of names

A path names a type, a value or a macro by names joined by `::`, each of
which may have arguments. Of the arguments only their form is kept
beside the tokens.
-/

set_option autoImplicit false

namespace EnumCompanion

/-- The form of the arguments behind a name in a path. -/
inductive Arguments where
  | none
  /-- Angle brackets with nothing in them. -/
  | hollow
  | angled
  | parenthesized
  deriving DecidableEq, Repr

/-- Whether there are no arguments, be it with angle brackets or without. -/
def Arguments.isEmpty (a : Arguments) : Bool :=
  a == .none || a == .hollow

/-- A name in a path. -/
structure Segment where
  name : Ident
  arguments : Arguments
  deriving DecidableEq, Repr

/-- A path, and its tokens in standard form. -/
structure Path where
  /-- Whether it starts with `::`. -/
  isGlobal : Bool
  segments : List Segment
  tokens : List Token
  deriving DecidableEq, Repr

namespace Path

/-- The last name. -/
def last? (p : Path) : Option Segment :=
  p.segments.getLast?

/-- Whether no name has brackets behind it, so that the path can name a
module. -/
def isPlain (p : Path) : Bool :=
  p.segments.all fun s => s.arguments == .none

end Path

end EnumCompanion
