import EnumCompanion.Grammar.Rule
import EnumCompanion.Text.Cut
import EnumCompanion.Token.Number

/-!
# `EnumCompanion.Grammar.Member`: names and positions of fields

A field has a name or a position. A position is a number without a
suffix that fits 32 bits; it is written in decimal. Behind a point two
positions look like one floating number, `0.1`, and are taken apart.
-/

set_option autoImplicit false

namespace EnumCompanion.Grammar

open Rule
open EnumCompanion.Token

/-! ### Positions -/

/-- The value of digits in a base; underscores are passed over. -/
def valueOf (base : Nat) (digits : List Char) : Nat :=
  digits.foldl (fun n c => match Number.digitValue? c with | some d => base * n + d | none => n) 0

/-- The position that a literal stands for. -/
def position? (spelling : List Char) : Option Nat :=
  let (base, digits) := Number.baseOf spelling
  let isWhole := digits.all (Number.isDigitOf base) && digits.any (· != '_')
  let starts := base != 10 || spelling.head?.any fun c => '0' ≤ c && c ≤ '9'
  let n := valueOf base digits
  if isWhole && starts && n < UInt32.size then some n else none

/-- The token of a position. -/
def positionToken (n : Nat) : Token :=
  .literal (Nat.repr n)

/-- Reads a position. -/
def position : Phrase
  | .literal s :: ts => (position? s.toList).map fun n => ([positionToken n], ts)
  | _ => none

/-! ### Positions joined by points -/

/-- Whether the literal is a floating number: with a point or an exponent
and no other base. -/
def isFloat (spelling : List Char) : Bool :=
  (Number.afterFloatDigits? spelling).isSome

/-- The positions in a floating number, and whether a point follows the
last. -/
def positionsOf? (spelling : List Char) : Option (List Nat × Bool) :=
  match (Text.cutAt '.' spelling).reverse with
  | [] :: parts => (parts.reverse.mapM position?).map (·, true)
  | parts => (parts.reverse.mapM position?).map (·, false)

end EnumCompanion.Grammar
