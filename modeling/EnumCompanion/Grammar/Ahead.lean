import EnumCompanion.Token

/-!
# `EnumCompanion.Grammar.Ahead`: what the next tokens are

The rules of the grammar decide by the tokens ahead of them. A question
is a test of those tokens; `second` and `third` ask it of what follows
the first token or the first two, where a lifetime counts as one token
and a group as one.

A mark is ahead when its characters are, each joint to the next. What
follows the last of them does not matter, so `<` is also ahead of `<=`;
rules that have to tell them apart ask for both.
-/

set_option autoImplicit false

namespace EnumCompanion.Grammar

/-- A question about the tokens ahead. -/
abbrev Ahead := List Token → Bool

namespace Ahead

/-! ### Single tokens -/

/-- No token is left. -/
def nothing : Ahead := List.isEmpty

/-- The characters of an operator, given one by one. -/
def marks : List Char → Ahead
  | [c], .punct d _ :: _ => c == d
  | c :: cs, .punct d .joint :: ts => c == d && marks cs ts
  | _, _ => false

/-- An operator. -/
def mark (m : String) : Ahead := marks m.toList

/-- A word spelt in the given way. -/
def word (w : String) : Ahead
  | .ident i :: _ => i.text == w
  | _ => false

/-- A word that can be used as a name. -/
def name : Ahead
  | .ident i :: _ => i.isName
  | _ => false

/-- A word, be it a name or a keyword. -/
def anyWord : Ahead
  | .ident _ :: _ => true
  | _ => false

/-- A lifetime. -/
def lifetime : Ahead
  | .punct '\'' .joint :: .ident _ :: _ => true
  | _ => false

/-- A group with the given delimiter. -/
def group (d : Delimiter) : Ahead
  | .group d' _ :: _ => d == d'
  | _ => false

/-- A group, whatever its delimiter. -/
def anyGroup : Ahead
  | .group _ _ :: _ => true
  | _ => false

/-! ### Literals -/

/-- Whether the literal is a number. -/
def isNumber (spelling : String) : Bool :=
  spelling.toList.head?.any fun c => '0' ≤ c && c ≤ '9'

/-- A literal: what the lexer takes for one, a truth value, or a number
after a minus sign. -/
def literal : Ahead
  | .literal _ :: _ => true
  | .ident i :: _ => i.text == "true" || i.text == "false"
  | .punct '-' _ :: .literal s :: _ => isNumber s
  | _ => false

/-- Whether the literal is a string. -/
def isString (spelling : String) : Bool :=
  spelling.toList.head?.any fun c => c == '"' || c == 'r'

/-- A literal string. -/
def string : Ahead
  | .literal s :: _ => isString s
  | _ => false

/-! ### Further ahead -/

/-- What follows the first token. -/
def rest : List Token → List Token
  | .punct '\'' .joint :: .ident _ :: ts => ts
  | _ :: ts => ts
  | [] => []

/-- Asks what follows the first token. -/
def second (p : Ahead) : Ahead
  | [] => false
  | ts => p (rest ts)

/-- Asks what follows the first two tokens. -/
def third (p : Ahead) : Ahead :=
  second (second p)

/-! ### Combinations -/

/-- One of several answers is yes. -/
def anyOf (ps : List Ahead) : Ahead :=
  fun ts => ps.any (· ts)

/-- Both answers are yes. -/
def both (p q : Ahead) : Ahead :=
  fun ts => p ts && q ts

/-- The first answer is yes and the second is no. -/
def but (p q : Ahead) : Ahead :=
  fun ts => p ts && !q ts

/-- The answer is no. -/
def no (p : Ahead) : Ahead :=
  fun ts => !p ts

/-- One of several words. -/
def words (ws : List String) : Ahead :=
  anyOf (ws.map word)

/-- One of several operators. -/
def marksOf (ms : List String) : Ahead :=
  anyOf (ms.map mark)

/-- The point of a member, which is not the first of a range. -/
def point : Ahead :=
  (mark ".").but (mark "..")

/-- A colon that is not the first of two. -/
def colon : Ahead :=
  (mark ":").but (mark "::")

end Ahead

end EnumCompanion.Grammar
