import EnumCompanion.Token

/-!
# `EnumCompanion.Token.Spelled`: tokens as one would write them

`Token.spelled` writes the tokens of a type as one line, with the
spacing a hand would use: `&'static str`, `Vec<u8>`, `fn(u8) -> bool`.
A space stands between two tokens unless the first sticks to what
follows or the second sticks to what comes before.

* `,` `;` `:` `<` and `>` stick to what comes before;
* `:` `<` `&` `*` `?` and the quote of a lifetime stick to what follows,
  and so does any other mark that is joint;
* a parenthesis sticks to an identifier before it.

Whether the last token sticks is forgotten inside a group, which starts
afresh.
-/

set_option autoImplicit false

namespace EnumCompanion.Token

/-! ### Which tokens stick -/

/-- Whether no space stands before the mark. -/
def sticksBefore (mark : Char) : Bool :=
  [',', ';', ':', '<', '>'].contains mark

/-- Whether no space stands after the mark. -/
def sticksAfter (mark : Char) (spacing : Spacing) : Bool :=
  if [',', ';', '>'].contains mark then false
  else if [':', '<', '&', '*', '\'', '?'].contains mark then true
  else spacing == .joint

/-- Whether no space stands before the token, given whether an identifier
comes before it. -/
def closesUp (afterIdent : Bool) : Token → Bool
  | .punct mark _ => sticksBefore mark
  | .group .parenthesis _ => afterIdent
  | _ => false

/-- Whether no space stands after the token. -/
def opensUp : Token → Bool
  | .punct mark spacing => sticksAfter mark spacing
  | _ => false

/-- Whether the token is an identifier. -/
def isIdent : Token → Bool
  | .ident _ => true
  | _ => false

/-! ### Writing a type -/

mutual

/-- The spelling of one token. -/
def spelledOne : Token → String
  | .ident name => name.text
  | .literal spelling => spelling
  | .punct mark _ => String.singleton mark
  | .group .parenthesis ts => "(" ++ spelledFrom true false ts ++ ")"
  | .group .bracket ts => "[" ++ spelledFrom true false ts ++ "]"
  | .group .brace ts => "\x7b " ++ spelledFrom true false ts ++ " \x7d"

/-- The spelling of the tokens after one that sticks or not, and that is
an identifier or not. -/
def spelledFrom (stuck afterIdent : Bool) : List Token → String
  | [] => ""
  | t :: ts =>
    (if stuck || t.closesUp afterIdent then "" else " ") ++ t.spelledOne ++
      spelledFrom t.opensUp t.isIdent ts

end

/-- The tokens on one line. -/
def spelled (ts : List Token) : String :=
  spelledFrom true false ts

end EnumCompanion.Token
