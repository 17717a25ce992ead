import EnumCompanion.Item
import EnumCompanion.Grammar.Rule

/-!
# `EnumCompanion.Grammar.Tree`: what rules give besides tokens

A rule that reads a type, a pattern or an expression gives its tokens
and the little that other rules have to know of it. `Rules` holds the
rules that call each other in a circle; a rule of one level is written
in terms of the rules one level deeper.
-/

set_option autoImplicit false

namespace EnumCompanion.Grammar

/-! ### Types -/

/-- What other rules have to know of a type. -/
inductive TypeShape where
  /-- A path that starts from no type. -/
  | path (p : Path)
  /-- One trait bound on its own, with its tokens short of parentheses. -/
  | bound (inner : List Token)
  | other

/-- A type. -/
structure TypeTree where
  tokens : List Token
  shape : TypeShape

/-- The path that the type is, if it is one. -/
def TypeTree.path? (t : TypeTree) : Option Path :=
  match t.shape with
  | .path p => some p
  | _ => none

/-- One of the bounds on a type. -/
structure Bound where
  tokens : List Token
  /-- The tokens short of parentheses around them. -/
  inner : List Token
  /-- Whether it names a trait. -/
  isTrait : Bool

/-! ### Patterns -/

/-- What other rules have to know of a pattern. -/
inductive PatternShape where
  /-- A name that is bound. -/
  | binding (name : Ident)
  /-- The two points that stand for what is left. -/
  | rest
  /-- A range that lacks one of its bounds. -/
  | openRange
  | verbatim
  | other
  deriving DecidableEq

/-- A pattern. -/
structure Pattern where
  tokens : List Token
  shape : PatternShape

/-! ### Expressions -/

/-- What other rules have to know of an expression. -/
inductive ExprShape where
  /-- An expression that ends a statement with its last brace. -/
  | block
  | range
  | comparison
  /-- A macro with its arguments in braces. -/
  | bracedMacro
  | verbatim
  | other
  deriving DecidableEq

/-- An expression. -/
structure Expr where
  tokens : List Token
  shape : ExprShape

/-- Whether the last token is a group in braces. -/
def Expr.endsInBrace (e : Expr) : Bool :=
  match e.tokens.getLast? with
  | some (.group .brace _) => true
  | _ => false

/-- How tightly operators bind, from loosest to tightest. -/
inductive Precedence where
  | jump
  | assignment
  | range
  | or
  | and
  | comparison
  | bitOr
  | bitXor
  | bitAnd
  | shift
  | sum
  | product
  | cast
  deriving DecidableEq, Repr

/-- The order of precedences as numbers. -/
def Precedence.rank (p : Precedence) : Nat := p.ctorIdx

/-! ### The circle of rules -/

/-- The rules that call each other in a circle. -/
structure Rules where
  /-- A type; whether it may be a sum of bounds. -/
  type : Bool → Rule TypeTree
  /-- A bound on a type; whether it may be a list of captured names, and
  whether it may be a trait for constants. -/
  bound : Bool → Bool → Rule Bound
  /-- An expression; whether it may contain a struct literal outside
  parentheses. -/
  expression : Bool → Rule Expr
  /-- An operand with the operators in front of it and behind it that take
  one operand. -/
  operand : Bool → Rule Expr
  /-- The rest of an expression with the given beginning, up to operators
  that bind looser than the given precedence. -/
  climb : Bool → Expr → Precedence → Rule Expr
  /-- An expression that ends with its first block, if it starts like
  one. -/
  bounded : Rule Expr
  /-- A pattern without alternatives. -/
  pattern : Rule Pattern
  /-- Statements to the end of a group. -/
  statements : Phrase
  /-- An item. -/
  item : Rule Item
  /-- A tree of imports; whether it may start with `::`. There is no result
  if one does that may. -/
  imports : Bool → Rule (Option (List Token))

/-- The rules that read nothing. -/
def Rules.none : Rules where
  type _ := failure
  bound _ _ := failure
  expression _ := failure
  operand _ := failure
  climb _ _ _ := failure
  bounded := failure
  pattern := failure
  statements := failure
  item := failure
  imports _ := failure

end EnumCompanion.Grammar
