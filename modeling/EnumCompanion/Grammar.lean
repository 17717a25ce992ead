import EnumCompanion.Grammar.Item

/-!
# `EnumCompanion.Grammar`: the grammar as a whole

`grammar n` closes the circle of rules: its rules may nest `n` deep, and
those of `grammar 0` read nothing. A rule reads a token at least before
it comes back to itself by way of a few others, so a multiple of the
number of tokens is deep enough for any text; `rulesFor` takes that.
-/

set_option autoImplicit false

namespace EnumCompanion.Grammar

/-- The rules that nest at most the given number deep. -/
def grammar : Nat → Rules
  | 0 => .none
  | n + 1 => {
    type := fun allowPlus ts => type (grammar n) allowPlus ts
    bound := fun allowCaptures allowConstant ts => bound (grammar n) allowCaptures allowConstant ts
    expression := fun allowStruct ts => expression (grammar n) allowStruct ts
    operand := fun allowStruct ts => operand (grammar n) allowStruct ts
    climb := fun allowStruct left floor ts => climb (grammar n) allowStruct left floor ts
    bounded := fun ts => bounded (grammar n) ts
    pattern := fun ts => pattern (grammar n) ts
    statements := fun ts => statements (grammar n) ts
    item := fun ts => item (grammar n) ts
    imports := fun allowGlobal ts => imports (grammar n) allowGlobal ts }

/-- The rules for a list of tokens. -/
def rulesFor (ts : List Token) : Rules :=
  grammar (4 * Token.sizeAll ts + 8)

/-- The type that the tokens are, if they are one. -/
def type? (ts : List Token) : Option TypeTree :=
  Rule.whole? ((rulesFor ts).type true) ts

/-- The item that the tokens are, if they are one. -/
def item? (ts : List Token) : Option EnumCompanion.Item :=
  Rule.whole? (rulesFor ts).item ts

/-- The items that the tokens are, behind inner attributes of the text as a
whole. -/
def items? (ts : List Token) : Option (List EnumCompanion.Item) :=
  let g := rulesFor ts
  Rule.whole? (do
    let _ ← innerAttributes g
    Rule.repeatUntil Ahead.nothing g.item) ts

end EnumCompanion.Grammar
