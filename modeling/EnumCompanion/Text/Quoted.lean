import EnumCompanion.Text.Printable

/-!
# `EnumCompanion.Text.Quoted`: quoted literals

Reading and writing the quoted literals of a source file.

* `readCooked` reads what follows the opening quote of a literal with
  escapes, up to and including the closing quote, and gives the text
  the literal stands for beside the characters after it. The three
  flavours (text, bytes, text without a zero) differ in the escapes and
  characters they admit, which `Flavour` records.
* `readRaw` does the same for a literal without escapes, closed by a
  quote and as many hashes as opened it.
* `encode` writes a text as a quoted literal, showing what is visible
  and escaping the rest.

The reader is one pass over the characters with a mode that says what
has been begun, so it is a plain recursion on the text.
-/

set_option autoImplicit false

namespace EnumCompanion.Text

/-! ### Flavours -/

/-- What a literal holds: text, bytes, or text that ends at a zero and so
may not contain one. -/
inductive Flavour where
  | text
  | bytes
  | zeroEnded
  deriving DecidableEq, Repr

namespace Flavour

/-- Whether the character may stand unescaped in a literal. -/
def admits : Flavour → Char → Bool
  | .text, _ => true
  | .bytes, c => c.toNat < 128
  | .zeroEnded, c => c.toNat ≠ 0

/-- The character that a backslash and `c` stand for. -/
def simpleEscape? (f : Flavour) (c : Char) : Option Char :=
  if c = 'n' then some '\n'
  else if c = 'r' then some '\r'
  else if c = 't' then some '\t'
  else if c = '\\' ∨ c = '\'' ∨ c = '"' then some c
  else if c = '0' ∧ f ≠ .zeroEnded then some (Char.ofNat 0)
  else none

/-- Whether `high` and `low` may be the two digits of an `\x` escape. -/
def admitsByte : Flavour → Nat → Nat → Bool
  | .text, high, _ => high < 8
  | .bytes, _, _ => true
  | .zeroEnded, high, low => high ≠ 0 || low ≠ 0

/-- Whether the code point may be named by a `\u` escape. -/
def admitsPoint : Flavour → Nat → Bool
  | .text, n => decide n.isValidChar
  | .bytes, _ => false
  | .zeroEnded, n => decide n.isValidChar && n ≠ 0

end Flavour

/-! ### Digits -/

/-- The value of a hexadecimal digit. -/
def hexDigit? (c : Char) : Option Nat :=
  if '0' ≤ c ∧ c ≤ '9' then some (c.toNat - '0'.toNat)
  else if 'a' ≤ c ∧ c ≤ 'f' then some (c.toNat - 'a'.toNat + 10)
  else if 'A' ≤ c ∧ c ≤ 'F' then some (c.toNat - 'A'.toNat + 10)
  else none

/-! ### Literals with escapes -/

/-- What has been begun inside a literal with escapes. -/
inductive CookedMode where
  /-- Nothing: the next character stands for itself or begins something. -/
  | plain
  /-- A carriage return, which a line feed has to follow. -/
  | carriage
  /-- A backslash. -/
  | escape
  /-- A backslash at a line end, after which blanks are skipped. -/
  | skip
  /-- A carriage return among skipped blanks. -/
  | skipCarriage
  /-- `\x`. -/
  | byteHigh
  /-- `\x` and one digit. -/
  | byteLow (high : Nat)
  /-- `\u`. -/
  | pointOpen
  /-- `\u` and a brace, with the value and the number of its digits. -/
  | pointDigits (value digits : Nat)
  deriving DecidableEq, Repr

/-- A blank that a line continuation skips, a carriage return apart. -/
def isContinuationBlank (c : Char) : Bool :=
  c == ' ' || c == '\t' || c == '\n'

/-- The mode in which `c` is read: skipping blanks ends at any other
character, which is then read plainly. -/
def CookedMode.reading (m : CookedMode) (c : Char) : CookedMode :=
  if m = .skip ∧ !isContinuationBlank c ∧ c ≠ '\r' then .plain else m

/-- Reads a literal from the given mode up to its closing quote: the text
it stands for, and what follows the quote. -/
def readCooked (f : Flavour) : CookedMode → List Char → Option (List Char × List Char)
  | _, [] => none
  | m, c :: rest =>
    match m.reading c with
    | .plain =>
      if c = '"' then some ([], rest)
      else if c = '\r' then readCooked f .carriage rest
      else if c = '\\' then readCooked f .escape rest
      else if f.admits c then (readCooked f .plain rest).map fun (v, r) => (c :: v, r)
      else none
    | .carriage =>
      if c = '\n' then (readCooked f .plain rest).map fun (v, r) => (c :: v, r) else none
    | .escape =>
      if c = 'x' then readCooked f .byteHigh rest
      else if c = 'u' ∧ f ≠ .bytes then readCooked f .pointOpen rest
      else if c = '\n' then readCooked f .skip rest
      else if c = '\r' then readCooked f .skipCarriage rest
      else
        match f.simpleEscape? c with
        | some e => (readCooked f .plain rest).map fun (v, r) => (e :: v, r)
        | none => none
    | .skip =>
      if c = '\r' then readCooked f .skipCarriage rest else readCooked f .skip rest
    | .skipCarriage =>
      if c = '\n' then readCooked f .skip rest else none
    | .byteHigh =>
      match hexDigit? c with
      | some high => readCooked f (.byteLow high) rest
      | none => none
    | .byteLow high =>
      match hexDigit? c with
      | some low =>
        if f.admitsByte high low then
          (readCooked f .plain rest).map fun (v, r) => (Char.ofNat (16 * high + low) :: v, r)
        else none
      | none => none
    | .pointOpen =>
      if c = '\x7b' then readCooked f (.pointDigits 0 0) rest else none
    | .pointDigits value digits =>
      if c = '_' ∧ digits ≠ 0 then readCooked f (.pointDigits value digits) rest
      else if c = '\x7d' ∧ digits ≠ 0 then
        if f.admitsPoint value then
          (readCooked f .plain rest).map fun (v, r) => (Char.ofNat value :: v, r)
        else none
      else
        match hexDigit? c with
        | some d =>
          if digits < 6 then readCooked f (.pointDigits (16 * value + d) (digits + 1)) rest
          else none
        | none => none

/-! ### Literals without escapes -/

/-- Drops `n` hashes from the front, if there are that many. -/
def dropHashes? : Nat → List Char → Option (List Char)
  | 0, cs => some cs
  | n + 1, '#' :: cs => dropHashes? n cs
  | _ + 1, _ => none

/-- Reads a raw literal up to a quote and `hashes` hashes: its text and
what follows. A carriage return has to be followed by a line feed. -/
def readRaw (f : Flavour) (hashes : Nat) : List Char → Option (List Char × List Char)
  | [] => none
  | c :: rest =>
    let goOn := (readRaw f hashes rest).map fun (v, r) => (c :: v, r)
    if c = '"' then
      match dropHashes? hashes rest with
      | some after => some ([], after)
      | none => goOn
    else if c = '\r' ∧ rest.head? ≠ some '\n' then none
    else if f.admits c then goOn
    else none

/-- Reads the opening hashes and quote of a raw literal, at most 255
hashes, and then the rest of it. -/
def readRawOpening (f : Flavour) (cs : List Char) : Option (List Char × List Char) :=
  let hashes := (cs.takeWhile (· == '#')).length
  match cs.dropWhile (· == '#') with
  | '"' :: rest => if hashes ≤ 255 then readRaw f hashes rest else none
  | _ => none

/-- The text that a string literal stands for, from its spelling; nothing
if the spelling is that of another kind of literal. A suffix is passed
over. -/
def stringValue? (spelling : String) : Option String :=
  match spelling.toList with
  | '"' :: rest => (readCooked .text .plain rest).map fun (v, _) => String.ofList v
  | 'r' :: rest => (readRawOpening .text rest).map fun (v, _) => String.ofList v
  | _ => none

/-! ### Writing -/

/-- The digits of a code point in a `\u` escape. -/
def pointDigits (n : Nat) : List Char :=
  Nat.toDigits 16 n

/-- The spelling of a character inside a quoted text. -/
def encodeChar (c : Char) : List Char :=
  if c.toNat = 0 then ['\\', '0']
  else if c = '\t' then ['\\', 't']
  else if c = '\r' then ['\\', 'r']
  else if c = '\n' then ['\\', 'n']
  else if c = '\\' then ['\\', '\\']
  else if c = '"' then ['\\', '"']
  else if isPlain c then [c]
  else ['\\', 'u', '\x7b'] ++ pointDigits c.toNat ++ ['\x7d']

/-- The spelling of a text between its quotes. -/
def encodeBody (cs : List Char) : List Char :=
  cs.flatMap encodeChar

/-- The text as a quoted literal. -/
def encode (s : String) : String :=
  String.ofList ('"' :: encodeBody s.toList ++ ['"'])

/-- The spelling of a comment's text between quotes: as `encodeBody`, but a
zero before an octal digit is written so that no reader takes the digit
for a part of the escape. -/
def encodeCommentBody : List Char → List Char
  | [] => []
  | c :: rest =>
    if c.toNat = 0 ∧ rest.head?.any (fun d => '0' ≤ d && d ≤ '7') then
      ['\\', 'x', '0', '0'] ++ encodeCommentBody rest
    else
      encodeChar c ++ encodeCommentBody rest

/-- A comment's text as a quoted literal. -/
def encodeComment (s : String) : String :=
  String.ofList ('"' :: encodeCommentBody s.toList ++ ['"'])

end EnumCompanion.Text
