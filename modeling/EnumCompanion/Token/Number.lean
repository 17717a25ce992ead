import EnumCompanion.Text.Letters

/-!
# `EnumCompanion.Token.Number`: where a number ends

Each function here takes the characters at which a number may start and
gives the characters after it. A floating number has a point that no
name and no second point follows, or an exponent with a digit; when the
exponent has none, the number ends before it and the letter begins a
suffix. Any other number is an integer, in one of four bases.
-/

set_option autoImplicit false

namespace EnumCompanion.Token.Number

open EnumCompanion.Text

/-! ### Characters -/

/-- An ASCII digit. -/
def isDigit (c : Char) : Bool :=
  '0' ≤ c && c ≤ '9'

/-- A digit or the underscore that may stand between digits. -/
def isDigitOrGap (c : Char) : Bool :=
  isDigit c || c == '_'

/-! ### Suffixes -/

/-- The characters after a name without the raw prefix, if one starts
here. -/
def afterName? : List Char → Option (List Char)
  | [] => none
  | c :: rest =>
    if isIdentifierStart c then some (rest.dropWhile isIdentifierContinue) else none

/-- The characters after an optional suffix. -/
def afterSuffix (cs : List Char) : List Char :=
  (afterName? cs).getD cs

/-- The end of a number: after its suffix, where no character may go on
the word. -/
def finish? (cs : List Char) : Option (List Char) :=
  let rest := afterSuffix cs
  match rest with
  | c :: _ => if isIdentifierContinue c then none else some rest
  | [] => some []

/-! ### Floating numbers -/

/-- After the digits of an exponent, given what follows its letter;
nothing if it has no digit. -/
def afterExponent? (cs : List Char) : Option (List Char) :=
  let unsigned :=
    match cs.dropWhile (· == '_') with
    | '+' :: rest => rest
    | '-' :: rest => rest
    | rest => rest
  if (unsigned.takeWhile isDigitOrGap).any isDigit then
    some (unsigned.dropWhile isDigitOrGap)
  else
    none

/-- After the exponent that may start here: `before` is where the number
ends if the exponent has no digit. -/
def afterMantissa? (before : Option (List Char)) : List Char → Option (List Char)
  | c :: rest =>
    if c = 'e' ∨ c = 'E' then
      match afterExponent? rest with
      | some after => some after
      | none => before
    else before
  | [] => before

/-- The characters after the digits of a floating number. -/
def afterFloatDigits? (cs : List Char) : Option (List Char) :=
  if cs.head?.any isDigit then
    match cs.dropWhile isDigitOrGap with
    | '.' :: rest =>
      if rest.head?.any (fun c => c == '.' || isIdentifierStart c) then none
      else
        let fraction := rest.dropWhile isDigitOrGap
        afterMantissa? (some fraction) fraction
    | rest => afterMantissa? none rest
  else none

/-- The characters after a floating number. -/
def afterFloat? (cs : List Char) : Option (List Char) :=
  (afterFloatDigits? cs).bind finish?

/-! ### Integers -/

/-- The value of a digit in a base up to sixteen, if it has one. -/
def digitValue? (c : Char) : Option Nat :=
  if isDigit c then some (c.toNat - '0'.toNat)
  else if 'a' ≤ c ∧ c ≤ 'f' then some (c.toNat - 'a'.toNat + 10)
  else if 'A' ≤ c ∧ c ≤ 'F' then some (c.toNat - 'A'.toNat + 10)
  else none

/-- Whether the character belongs to the digits of a number: any decimal
digit does, even one too large for the base. -/
def isDigitOf (base : Nat) (c : Char) : Bool :=
  isDigitOrGap c || (digitValue? c).any (· < base)

/-- The base of the number that starts here, and its digits. -/
def baseOf : List Char → Nat × List Char
  | '0' :: 'x' :: rest => (16, rest)
  | '0' :: 'o' :: rest => (8, rest)
  | '0' :: 'b' :: rest => (2, rest)
  | cs => (10, cs)

/-- The characters after the digits of an integer. Every digit has to fit
the base, there has to be one, and a decimal number starts with one. -/
def afterDigits? (cs : List Char) : Option (List Char) :=
  let (base, ds) := baseOf cs
  let run := ds.takeWhile (isDigitOf base)
  let fits := run.all fun c => c == '_' || (digitValue? c).any (· < base)
  let starts := base ≠ 10 || ds.head?.any isDigit
  if fits && starts && run.any (· != '_') then some (ds.dropWhile (isDigitOf base)) else none

/-- The characters after an integer. -/
def afterInteger? (cs : List Char) : Option (List Char) :=
  (afterDigits? cs).bind finish?

end EnumCompanion.Token.Number
