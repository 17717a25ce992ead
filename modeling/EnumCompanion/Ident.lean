/-!
# `EnumCompanion.Ident`: identifiers and keywords

An identifier of a source file has a name and a spelling: the raw
spelling `r#type` lets a keyword serve as a name. Two identifiers are
the same here when name and spelling agree, so `A` and `r#A` differ.

Three word lists matter. `keywords` may be spelt raw; `pathKeywords`
have no raw form; and `isReserved` says which plain words a source file
cannot use as a name.
-/

set_option autoImplicit false

namespace EnumCompanion

/-! ### Identifiers -/

/-- An identifier: its name, and whether it is spelt raw. -/
structure Ident where
  raw : Bool
  name : String
  deriving DecidableEq, Repr

namespace Ident

/-- The plainly spelt identifier of a name. -/
def plain (name : String) : Ident := ⟨false, name⟩

/-- The spelling of the identifier. -/
def text (i : Ident) : String :=
  if i.raw then "r#" ++ i.name else i.name

end Ident

/-! ### Keywords -/

/-- The keywords that can be spelt raw. -/
def keywords : List String :=
  ["abstract", "as", "async", "await", "become", "box", "break", "const", "continue", "do",
   "dyn", "else", "enum", "extern", "false", "final", "fn", "for", "gen", "if", "impl", "in",
   "let", "loop", "macro", "match", "mod", "move", "mut", "override", "priv", "pub", "ref",
   "return", "static", "struct", "trait", "true", "try", "type", "typeof", "unsafe",
   "unsized", "use", "virtual", "where", "while", "yield"]

/-- The keywords that name paths and have no raw form. -/
def pathKeywords : List String :=
  ["crate", "self", "Self", "super"]

/-- A keyword that can be spelt raw. -/
def isKeyword (s : String) : Bool :=
  keywords.contains s

/-- A keyword that names a path. -/
def isPathKeyword (s : String) : Bool :=
  pathKeywords.contains s

/-- A plain spelling that is no name in a source file: any keyword but
`gen`, which is one only to later editions of the language, and the
underscore. -/
def isReserved (s : String) : Bool :=
  s == "_" || isPathKeyword s || (isKeyword s && s != "gen")

/-- Whether the identifier can be used as a name in a source file. -/
def Ident.isName (i : Ident) : Bool :=
  i.raw || !isReserved i.name

end EnumCompanion
