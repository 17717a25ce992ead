import EnumCompanion.Ident

/-!
# `EnumCompanion.Token`: token trees

A source text is read as a list of tokens in which delimiters are
matched: a group holds the tokens between its delimiters. A punctuation
mark is one character; marks of one operator are told from marks that
merely stand side by side by their spacing, which is joint for a mark
that another one follows directly. Every group has delimiters, as in a text
that was written down; the groups without any that a macro can produce are
left out.

`Token.words` writes tokens down one word at a time.
-/

set_option autoImplicit false

namespace EnumCompanion

/-! ### Tokens -/

/-- The kinds of matched delimiters. -/
inductive Delimiter where
  | parenthesis
  | bracket
  | brace
  deriving DecidableEq, Repr

namespace Delimiter

/-- The opening character. -/
def opening : Delimiter → String
  | .parenthesis => "("
  | .bracket => "["
  | .brace => "\x7b"

/-- The closing character. -/
def closing : Delimiter → String
  | .parenthesis => ")"
  | .bracket => "]"
  | .brace => "\x7d"

end Delimiter

/-- Whether another punctuation mark follows a mark directly. -/
inductive Spacing where
  | alone
  | joint
  deriving DecidableEq, Repr

/-- A token, or a group of tokens between matched delimiters. -/
inductive Token where
  | ident (name : Ident)
  | literal (spelling : String)
  | punct (mark : Char) (spacing : Spacing)
  | group (delimiter : Delimiter) (tokens : List Token)
  deriving Repr

namespace Token

/-! ### Equality -/

mutual

/-- Whether two tokens are the same. -/
def same : Token → Token → Bool
  | .ident a, .ident b => a == b
  | .literal a, .literal b => a == b
  | .punct a s, .punct b t => a == b && s == t
  | .group d ts, .group e us => d == e && sameAll ts us
  | _, _ => false

/-- Whether two lists of tokens are the same. -/
def sameAll : List Token → List Token → Bool
  | [], [] => true
  | t :: ts, u :: us => same t u && sameAll ts us
  | _, _ => false

end

mutual

theorem same_iff : (t u : Token) → (same t u = true ↔ t = u)
  | .ident _, u => by cases u <;> simp [same]
  | .literal _, u => by cases u <;> simp [same]
  | .punct _ _, u => by cases u <;> simp [same]
  | .group _ ts, u => by
    cases u with
    | group e us => simp [same, sameAll_iff ts us]
    | _ => simp [same]

theorem sameAll_iff : (ts us : List Token) → (sameAll ts us = true ↔ ts = us)
  | [], us => by cases us <;> simp [sameAll]
  | t :: ts, us => by
    cases us with
    | nil => simp [sameAll]
    | cons u us => simp [sameAll, same_iff t u, sameAll_iff ts us]

end

instance : DecidableEq Token := fun t u => decidable_of_iff _ (same_iff t u)

/-! ### Words -/

mutual

/-- The words of a token, delimiters included. -/
def words : Token → List String
  | .ident name => [name.text]
  | .literal spelling => [spelling]
  | .punct mark _ => [String.singleton mark]
  | .group d ts => d.opening :: (wordsOf ts ++ [d.closing])

/-- The words of a list of tokens. -/
def wordsOf : List Token → List String
  | [] => []
  | t :: ts => t.words ++ wordsOf ts

end

/-! ### Size -/

mutual

/-- The number of tokens in a tree; a group counts for one more than its
content. -/
def size : Token → Nat
  | .ident _ => 1
  | .literal _ => 1
  | .punct _ _ => 1
  | .group _ ts => 1 + sizeAll ts

/-- The number of tokens in a list of trees. -/
def sizeAll : List Token → Nat
  | [] => 0
  | t :: ts => t.size + sizeAll ts

end

/-! ### Writing tokens -/

/-- A plainly spelt word. -/
def word (s : String) : List Token :=
  [.ident (.plain s)]

/-- The marks of one operator: all but the last are joint. -/
def marksOf : List Char → List Token
  | [] => []
  | [c] => [.punct c .alone]
  | c :: rest => .punct c .joint :: marksOf rest

/-- The operator with the given spelling. -/
def operator (s : String) : List Token :=
  marksOf s.toList

/-- The group of the tokens between a pair of delimiters. -/
def enclosed (d : Delimiter) (ts : List Token) : List Token :=
  [.group d ts]

end Token

end EnumCompanion
