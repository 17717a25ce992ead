import EnumCompanion.Text.CodeSet

/-!
# `EnumCompanion.Text.Blank`: white space

The Unicode property `White_Space`, and texts that hold nothing else.
The lexer of source files also skips the two directional marks, which
this property leaves out.
-/

set_option autoImplicit false

namespace EnumCompanion.Text

/-- The property `White_Space`. -/
def whiteSpaceSet : CodeSet := ⟨
  [9, 14, 32, 33, 133, 134, 160, 161, 5760, 5761, 8192, 8203, 8232, 8234, 8239, 8240, 8287, 8288,
   12288, 12289]⟩

/-- A white-space character. -/
def isWhiteSpace (c : Char) : Bool :=
  whiteSpaceSet.contains c

/-- A text without any other character, such as the empty one. -/
def isBlank (s : String) : Bool :=
  s.toList.all isWhiteSpace

end EnumCompanion.Text
