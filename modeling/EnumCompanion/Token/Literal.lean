import EnumCompanion.Token.Number
import EnumCompanion.Text.Quoted

/-!
# `EnumCompanion.Token.Literal`: where a literal ends

A literal is a string (with escapes or raw; of text, of bytes, or of
text ended by a zero), a byte, a character, or a number.
`afterLiteral?` gives the characters after the literal that starts at
the given ones. A literal may carry a suffix.
-/

set_option autoImplicit false

namespace EnumCompanion.Token

open EnumCompanion.Text
open Number (afterFloat? afterInteger? afterSuffix)

/-! ### Strings -/

/-- After a literal with escapes, given what follows its opening quote. -/
def afterCooked? (f : Flavour) (cs : List Char) : Option (List Char) :=
  (readCooked f .plain cs).map fun (_, rest) => afterSuffix rest

/-- After a raw literal, given what follows its letters. -/
def afterRaw? (f : Flavour) (cs : List Char) : Option (List Char) :=
  (readRawOpening f cs).map fun (_, rest) => afterSuffix rest

/-- After a string of any flavour. -/
def afterString? : List Char → Option (List Char)
  | '"' :: rest => afterCooked? .text rest
  | 'r' :: rest => afterRaw? .text rest
  | 'b' :: '"' :: rest => afterCooked? .bytes rest
  | 'b' :: 'r' :: rest => afterRaw? .bytes rest
  | 'c' :: '"' :: rest => afterCooked? .zeroEnded rest
  | 'c' :: 'r' :: rest => afterRaw? .zeroEnded rest
  | _ => none

/-! ### Characters and bytes -/

/-- After one hexadecimal digit that passes the test. -/
def afterHexDigit? (test : Nat → Bool) : List Char → Option (List Char)
  | c :: rest => if (hexDigit? c).any test then some rest else none
  | [] => none

/-- After the digits and the closing brace of a `\u` escape, of which
`digits` have been read with the value `value`. -/
def afterPoint? (value digits : Nat) : List Char → Option (List Char)
  | [] => none
  | c :: rest =>
    if c = '_' ∧ digits ≠ 0 then afterPoint? value digits rest
    else if c = '\x7d' ∧ digits ≠ 0 then if value.isValidChar then some rest else none
    else
      match hexDigit? c with
      | some d => if digits < 6 then afterPoint? (16 * value + d) (digits + 1) rest else none
      | none => none

/-- After what follows the backslash of an escape in a character, or in a
byte. -/
def afterEscape? (byte : Bool) : List Char → Option (List Char)
  | [] => none
  | 'x' :: rest =>
    (afterHexDigit? (fun d => byte || d < 8) rest).bind (afterHexDigit? fun _ => true)
  | 'u' :: rest =>
    if byte then none
    else
      match rest with
      | '\x7b' :: ds => afterPoint? 0 0 ds
      | _ => none
  | c :: rest =>
    if ['n', 'r', 't', '\\', '0', '\'', '"'].contains c then some rest else none

/-- After the one character a literal holds, escaped or not. A byte is an
ASCII character. -/
def afterOne? (byte : Bool) : List Char → Option (List Char)
  | [] => none
  | '\\' :: rest => afterEscape? byte rest
  | c :: rest => if byte && 128 ≤ c.toNat then none else some rest

/-- After the closing quote of a character, and its suffix. -/
def afterQuote? : List Char → Option (List Char)
  | '\'' :: rest => some (afterSuffix rest)
  | _ => none

/-- After a byte or a character. -/
def afterCharacter? : List Char → Option (List Char)
  | 'b' :: '\'' :: rest => (afterOne? true rest).bind afterQuote?
  | '\'' :: rest => (afterOne? false rest).bind afterQuote?
  | _ => none

/-! ### Literals -/

/-- The characters after the literal that starts here, if one does. -/
def afterLiteral? (cs : List Char) : Option (List Char) :=
  (afterString? cs).or
    ((afterCharacter? cs).or ((afterFloat? cs).or (afterInteger? cs)))

end EnumCompanion.Token
