import EnumCompanion.Ident
import EnumCompanion.Text.Canonical
import EnumCompanion.Text.Letters
import EnumCompanion.Text.LetterCase

/-!
# `EnumCompanion.Name`: the names a companion uses

How the names of a companion's members are made from the names of an
enum, which names a summary may carry, and how a local name is chosen
that meets no other: `fresh` appends underscores to a base until
nothing is in the way.

Names are texts, and two names are the same when they have the same
characters. The language reads a name as an identifier, and there two names
may be the same that differ as texts: `identifier` says when.
-/

set_option autoImplicit false

namespace EnumCompanion.Name

open EnumCompanion.Text

/-! ### Names made from names -/

/-- The companion of an enum: `Quarter_` for `Quarter`. -/
def companion (enumName : String) : String :=
  enumName ++ "_"

/-- The lookup by a parameter: `fromQuarter` for `quarter`. -/
def lookup (parameter : String) : String :=
  "from" ++ capitalize parameter

/-- The accessor that the lookup by a parameter compares with:
`getQuarter` for `quarter`. -/
def accessor (parameter : String) : String :=
  "get" ++ capitalize parameter

/-! ### Spelling -/

/-- Whether the text is an identifier: letters, digits and underscores,
not beginning with a digit, and not the underscore alone. Keywords count,
as they can be spelt raw. -/
def isIdentifier (s : String) : Bool :=
  match s.toList with
  | [] => false
  | c :: rest =>
    (c == '_' || isAlphabetic c) && s != "_" &&
      rest.all fun d => d == '_' || isAlphanumeric d

/-- The spelling of a name where an identifier is expected: a keyword is
spelt raw. -/
def spelling (name : String) : String :=
  if isKeyword name then "r#" ++ name else name

/-! ### Identifiers -/

/-- The identifier that a spelling stands for, in its canonical form. A raw
spelling stands for what is behind its mark. -/
def ofSpelling (text : String) : String :=
  match text.toList with
  | 'r' :: '#' :: rest => canonical (String.ofList rest)
  | _ => canonical text

/-- The identifier that a name is read as where it is written. -/
def identifier (name : String) : String :=
  ofSpelling (spelling name)

/-! ### Names that meet no other -/

/-- Whether a local name cannot be used: it is a keyword, or taken. -/
def isUnavailable (taken : List String) (name : String) : Bool :=
  isKeyword name || isPathKeyword name || taken.contains name

/-- Appends an underscore to an unavailable name, at most the given number
of times. -/
def freshWithin (taken : List String) : Nat → String → String
  | 0, name => name
  | n + 1, name =>
    if isUnavailable taken name then freshWithin taken n (name.push '_') else name

/-- The base followed by the fewest underscores that make it available.
The names tried on the way are all different, so there are no more of
them than there are names to avoid. -/
def fresh (base : String) (taken : List String) : String :=
  freshWithin taken (keywords.length + pathKeywords.length + taken.length) base

end EnumCompanion.Name
