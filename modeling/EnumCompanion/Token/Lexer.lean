import EnumCompanion.Token
import EnumCompanion.Token.Literal
import EnumCompanion.Text.Blank

/-!
# `EnumCompanion.Token.Lexer`: from text to token trees

Lexing goes in two steps. `lexemes?` cuts the text into lexemes, with
delimiters still unmatched: blanks and comments vanish, and a doc
comment becomes the attribute it stands for. `nest?` then matches the
delimiters. `lex?` is both; a text with an unmatched delimiter, an open
string or a character that begins no lexeme has no tokens.

A mark is joint when another mark follows directly; the quote of a
lifetime is always joint to its name.
-/

set_option autoImplicit false

namespace EnumCompanion

open EnumCompanion.Text

/-- A lexeme: a token that is no group, or one delimiter. -/
inductive Lexeme where
  | token (t : Token)
  | opening (d : Delimiter)
  | closing (d : Delimiter)
  deriving Repr

namespace Token

/-! ### Blanks and comments -/

/-- White space to the lexer: the directional marks count as well. -/
def isLexicalBlank (c : Char) : Bool :=
  isWhiteSpace c || c.toNat == 0x200e || c.toNat == 0x200f

/-- After the block comments open at `depth`. -/
def afterBlockComment? : Nat → List Char → Option (List Char)
  | depth, '/' :: '*' :: rest => afterBlockComment? (depth + 1) rest
  | depth, '*' :: '/' :: rest => if depth ≤ 1 then some rest else afterBlockComment? (depth - 1) rest
  | depth, _ :: rest => afterBlockComment? depth rest
  | _, [] => none

/-- The line that starts here, without its end, and what follows it. -/
def splitLine : List Char → List Char × List Char
  | [] => ([], [])
  | '\n' :: rest => ([], '\n' :: rest)
  | '\r' :: '\n' :: rest => ([], '\n' :: rest)
  | c :: rest => let (line, after) := splitLine rest; (c :: line, after)

/-- The kinds of comment that may start at a point. -/
inductive Comment where
  /-- A comment that vanishes, and what follows it. -/
  | plain (rest : List Char)
  /-- A comment that documents: on what is inside or outside it, and what
  follows it. -/
  | doc (inner : Bool) (text : List Char) (rest : List Char)

/-- The text of a block comment whose first three characters are given
away, and what follows it. -/
def blockText? (body : List Char) : Option (List Char × List Char) :=
  (afterBlockComment? 1 body).map fun rest =>
    (body.take (body.length - rest.length - 2), rest)

/-- Whether every carriage return is part of a line end. -/
def hasNoBareReturn : List Char → Bool
  | '\r' :: '\n' :: rest => hasNoBareReturn rest
  | '\r' :: _ => false
  | _ :: rest => hasNoBareReturn rest
  | [] => true

/-- The comment that starts here, if one does and is well formed. -/
def comment? : List Char → Option Comment
  | '/' :: '/' :: '/' :: '/' :: rest => some (.plain (splitLine rest).2)
  | '/' :: '/' :: '/' :: rest =>
    let (line, after) := splitLine rest
    if hasNoBareReturn line then some (.doc false line after) else none
  | '/' :: '/' :: '!' :: rest =>
    let (line, after) := splitLine rest
    if hasNoBareReturn line then some (.doc true line after) else none
  | '/' :: '/' :: rest => some (.plain (splitLine rest).2)
  | '/' :: '*' :: '*' :: '/' :: rest => some (.plain rest)
  | '/' :: '*' :: '*' :: '*' :: rest => (afterBlockComment? 1 ('*' :: '*' :: rest)).map .plain
  | '/' :: '*' :: '*' :: rest =>
    match blockText? rest with
    | some (text, after) => if hasNoBareReturn text then some (.doc false text after) else none
    | none => none
  | '/' :: '*' :: '!' :: rest =>
    match blockText? rest with
    | some (text, after) => if hasNoBareReturn text then some (.doc true text after) else none
    | none => none
  | '/' :: '*' :: rest => (afterBlockComment? 1 rest).map .plain
  | _ => none

/-- The lexemes of the attribute that a doc comment stands for. -/
def docLexemes (inner : Bool) (text : List Char) : List Lexeme :=
  [.token (.punct '#' .alone)] ++
    (if inner then [.token (.punct '!' .alone)] else []) ++
    [.opening .bracket, .token (.ident (.plain "doc")), .token (.punct '=' .alone),
     .token (.literal (encodeComment (String.ofList text))), .closing .bracket]

/-! ### Identifiers -/

/-- An identifier in either spelling, and what follows it. The words that
have no raw form cannot be spelt raw. -/
def anyIdent? (cs : List Char) : Option (Ident × List Char) :=
  match cs with
  | 'r' :: '#' :: rest =>
    match Number.afterName? rest with
    | some after =>
      let name := String.ofList (rest.take (rest.length - after.length))
      if name == "_" || isPathKeyword name then none else some (⟨true, name⟩, after)
    | none => none
  | _ =>
    match Number.afterName? cs with
    | some after => some (⟨false, String.ofList (cs.take (cs.length - after.length))⟩, after)
    | none => none

/-- The beginnings of literals that an identifier may not be mistaken
for. -/
def literalOpenings : List (List Char) :=
  [['r', '"'], ['r', '#', '"'], ['r', '#', '#'], ['b', '"'], ['b', '\''], ['b', 'r', '"'],
   ['b', 'r', '#'], ['c', '"'], ['c', 'r', '"'], ['c', 'r', '#']]

/-- An identifier, and what follows it. -/
def ident? (cs : List Char) : Option (Ident × List Char) :=
  if literalOpenings.any (·.isPrefixOf cs) then none else anyIdent? cs

/-! ### Punctuation -/

/-- The punctuation characters. -/
def isMark (c : Char) : Bool :=
  "~!@#$%^&*-=+|;:,<.>/?'".toList.contains c

/-- Whether a mark starts here; the slash of a comment is none. -/
def startsWithMark : List Char → Bool
  | '/' :: '/' :: _ => false
  | '/' :: '*' :: _ => false
  | c :: _ => isMark c
  | [] => false

/-- A mark, and what follows it. A quote is a mark only before the name of
a lifetime that is no unfinished character. -/
def punct? (cs : List Char) : Option (Token × List Char) :=
  match cs with
  | '\'' :: rest =>
    match anyIdent? rest with
    | some (name, after) =>
      if after.head? == some '\'' || (after.head? == some '#' && !name.raw) then none
      else some (.punct '\'' .joint, rest)
    | none => none
  | c :: rest =>
    if startsWithMark cs then
      some (.punct c (if startsWithMark rest then .joint else .alone), rest)
    else none
  | [] => none

/-! ### Lexemes -/

/-- The delimiter that a character opens. -/
def opening? : Char → Option Delimiter
  | '(' => some .parenthesis
  | '[' => some .bracket
  | '\x7b' => some .brace
  | _ => none

/-- The delimiter that a character closes. -/
def closing? : Char → Option Delimiter
  | ')' => some .parenthesis
  | ']' => some .bracket
  | '\x7d' => some .brace
  | _ => none

/-- A token that is no group, and what follows it. -/
def leaf? (cs : List Char) : Option (Token × List Char) :=
  match afterLiteral? cs with
  | some rest => some (.literal (String.ofList (cs.take (cs.length - rest.length))), rest)
  | none =>
    match punct? cs with
    | some found => some found
    | none => (ident? cs).map fun (name, rest) => (.ident name, rest)

/-- The spelling that stands for an expression no tool could expand; it is
read as a literal. -/
def unexpanded : List Char :=
  "(/*ERROR*/)".toList

/-- The lexemes that start at the next point, and what follows them; none
for a blank. -/
def nextLexemes? (cs : List Char) : Option (List Lexeme × List Char) :=
  match cs with
  | [] => none
  | c :: rest =>
    if isLexicalBlank c then some ([], rest)
    else
      match comment? cs with
      | some (.plain after) => some ([], after)
      | some (.doc inner text after) => some (docLexemes inner text, after)
      | none =>
        if unexpanded.isPrefixOf cs then
          some ([.token (.literal (String.ofList unexpanded))], cs.drop unexpanded.length)
        else
          match opening? c, closing? c with
          | some d, _ => some ([.opening d], rest)
          | none, some d => some ([.closing d], rest)
          | none, none => (leaf? cs).map fun (t, after) => ([.token t], after)

/-- The lexemes of a text, in at most the given number of steps. -/
def lexemesWithin? : Nat → List Char → Option (List Lexeme)
  | _, [] => some []
  | 0, _ => none
  | n + 1, cs =>
    match nextLexemes? cs with
    | some (found, rest) => (lexemesWithin? n rest).map (found ++ ·)
    | none => none

/-- The lexemes of a text. Every step takes a character away, so the
length of the text bounds their number. -/
def lexemes? (cs : List Char) : Option (List Lexeme) :=
  lexemesWithin? cs.length cs

/-! ### Matching delimiters -/

/-- Matches the delimiters: `outer` holds the groups that are open, each
with the tokens read before it, and `done` the tokens of the innermost
one, all in reverse. -/
def nestFrom? : List (Delimiter × List Token) → List Token → List Lexeme → Option (List Token)
  | [], done, [] => some done.reverse
  | _ :: _, _, [] => none
  | outer, done, .token t :: rest => nestFrom? outer (t :: done) rest
  | outer, done, .opening d :: rest => nestFrom? ((d, done) :: outer) [] rest
  | (d, before) :: outer, done, .closing d' :: rest =>
    if d = d' then nestFrom? outer (.group d done.reverse :: before) rest else none
  | [], _, .closing _ :: _ => none

/-- The token trees of a list of lexemes. -/
def nest? (ls : List Lexeme) : Option (List Token) :=
  nestFrom? [] [] ls

/-- A text without the byte order mark it may start with. -/
def withoutOrderMark : List Char → List Char
  | c :: rest => if c.toNat = 0xfeff then rest else c :: rest
  | [] => []

/-- The token trees of a text; a byte order mark in front is dropped. -/
def lex? (source : String) : Option (List Token) :=
  (lexemes? (withoutOrderMark source.toList)).bind nest?

end Token

end EnumCompanion
