import EnumCompanion.Grammar
import EnumCompanion.Token.Lexer
import EnumCompanion.Token.Spelled

/-!
# `EnumCompanion.SourceText`: reading source text

From the text of a source file to its items, and from the text of a type
to its standard spelling. A source file may start with a byte order mark
and with a line that names its interpreter, both of which are passed
over; the beginning of an inner attribute is not taken for such a line.
-/

set_option autoImplicit false

namespace EnumCompanion.SourceText

/-! ### The first line -/

/-- The text behind blanks and comments, in at most the given number of
steps. -/
def afterBlanksWithin : Nat → List Char → List Char
  | 0, cs => cs
  | n + 1, cs =>
    match cs with
    | [] => []
    | c :: rest =>
      if Token.isLexicalBlank c then afterBlanksWithin n rest
      else
        match Token.comment? cs with
        | some (.plain after) => afterBlanksWithin n after
        | _ => cs

/-- The text behind blanks and comments that document nothing. -/
def afterBlanks (cs : List Char) : List Char :=
  afterBlanksWithin cs.length cs

/-- The text without a first line that names its interpreter. -/
def withoutInterpreter (cs : List Char) : List Char :=
  match cs with
  | '#' :: '!' :: rest =>
    if (afterBlanks rest).head? == some '[' then cs else cs.dropWhile (· != '\n')
  | _ => cs

/-! ### Reading -/

/-- The items of a text without a first line of its own kind. -/
def items? (text : String) : Option (List Item) :=
  (Token.lex? text).bind Grammar.items?

/-- The items of a source file. -/
def file? (text : String) : Option (List Item) :=
  items? (String.ofList (withoutInterpreter (Token.withoutOrderMark text.toList)))

/-- The standard spelling of a type. -/
def type? (text : String) : Option String :=
  ((Token.lex? text).bind Grammar.type?).map fun t => Token.spelled t.tokens

end EnumCompanion.SourceText
