import EnumCompanion.Grammar.Pattern

/-!
# `EnumCompanion.Grammar.Operator`: operators between operands

How operators between two operands bind. `climb` reads the rest of an
expression that has begun: it takes operators that bind at least as
tight as a given precedence, and behind each the operand with all that
binds tighter.

Two comparisons cannot be chained, a range is the operand of no operator
on its right, and behind a cast no call, field or index can follow.
-/

set_option autoImplicit false

namespace EnumCompanion.Grammar

open Rule

/-! ### Operators -/

/-- The operators between two operands. An operator comes before those
that its beginning could be mistaken for. -/
def binaryOperators : List (String × Precedence) :=
  [("+=", .assignment), ("-=", .assignment), ("*=", .assignment), ("/=", .assignment),
   ("%=", .assignment), ("^=", .assignment), ("&=", .assignment), ("|=", .assignment),
   ("<<=", .assignment), (">>=", .assignment), ("&&", .and), ("||", .or), ("<<", .shift),
   (">>", .shift), ("==", .comparison), ("<=", .comparison), ("!=", .comparison),
   (">=", .comparison), ("+", .sum), ("-", .sum), ("*", .product), ("/", .product),
   ("%", .product), ("^", .bitXor), ("&", .bitAnd), ("|", .bitOr), ("<", .comparison),
   (">", .comparison)]

/-- The operator between operands that is ahead. -/
def operatorAhead? (ts : List Token) : Option (String × Precedence) :=
  binaryOperators.find? fun (m, _) => Ahead.mark m ts

/-- The mark of an assignment. -/
def Ahead.assignment : Ahead :=
  (mark "=").but (mark "=>")

/-- The precedence of what is ahead: of an operator between operands, of an
assignment, of a range or of a cast. -/
def precedenceAhead (ts : List Token) : Precedence :=
  match operatorAhead? ts with
  | some (_, p) => p
  | none =>
    if Ahead.assignment ts then .assignment
    else if Ahead.mark ".." ts then .range
    else if Ahead.word "as" ts then .cast
    else .jump

/-! ### Operands on the right -/

/-- Whether an operand on the right goes on with an operator of the
precedence `next`, given that of the operator in front of it. -/
def goesOn (next operator : Precedence) : Bool :=
  next.rank > operator.rank || (next = operator && operator = .assignment)

/-- The rest of an operand on the right, in at most the given number of
rounds. A round that reads nothing is the last. -/
def extendWithin (g : Rules) (allowStruct : Bool) (operator : Precedence) :
    Nat → Expr → Rule Expr
  | 0, _ => failure
  | n + 1, e => do
    let before ← get
    let next := precedenceAhead before
    if goesOn next operator then
      let extended ← g.climb allowStruct e next
      if (← get).length = before.length then return extended
      extendWithin g allowStruct operator n extended
    else return e

/-- The operand on the right of an operator. -/
def rightOperand (g : Rules) (allowStruct : Bool) (operator : Precedence) : Rule Expr := do
  let e ← g.operand allowStruct
  extendWithin g allowStruct operator ((← get).length + 1) e

/-! ### Ranges and casts -/

/-- What stands behind a range without an upper bound. -/
def Ahead.noUpperBound (allowStruct : Bool) : Ahead :=
  fun ts =>
    anyOf
      [nothing, point, word "as",
       marksOf [",", ";", "?", "=>", "=", "+", "/", "%", "^", ">", "<=", "!=", "-=", "*=", "&=",
         "|=", "<<="]] ts ||
      (!allowStruct && group .brace ts)

/-- The points of a range and its upper bound, if there is one. -/
def rangeEnd (g : Rules) (allowStruct : Bool) : Phrase := do
  let (isClosed, points) ← rangePoints false
  if !isClosed && (← sees (Ahead.noUpperBound allowStruct)) then return points
  return points ++ (← rightOperand g allowStruct .range).tokens

/-- What cannot follow a cast. -/
def Ahead.afterCast : Ahead :=
  anyOf [point, mark "?", group .bracket, group .parenthesis]

/-- The type behind a cast. -/
def cast (g : Rules) : Phrase := do
  let ts ← join [word "as", typePhrase g false]
  expects (Ahead.no Ahead.afterCast)
  return ts

/-! ### Climbing -/

/-- The rest of an expression, in at most the given number of rounds. -/
def climbWithin (g : Rules) (allowStruct : Bool) (floor : Precedence) : Nat → Expr → Rule Expr
  | 0, _ => failure
  | n + 1, left => do
    let ts ← get
    if left.shape = .range then return left
    match operatorAhead? ts with
    | some (m, p) =>
      if p.rank < floor.rank then return left
      if p = .comparison && left.shape = .comparison then failure
      let operator ← mark m
      let right ← rightOperand g allowStruct p
      climbWithin g allowStruct floor n
        ⟨left.tokens ++ operator ++ right.tokens, if p = .comparison then .comparison else .other⟩
    | none =>
      if floor.rank ≤ Precedence.assignment.rank && Ahead.assignment ts then
        let operator ← mark "="
        let right ← rightOperand g allowStruct .assignment
        climbWithin g allowStruct floor n ⟨left.tokens ++ operator ++ right.tokens, .other⟩
      else if floor.rank ≤ Precedence.range.rank && Ahead.mark ".." ts then
        climbWithin g allowStruct floor n
          ⟨left.tokens ++ (← rangeEnd g allowStruct), .range⟩
      else if Ahead.word "as" ts then
        climbWithin g allowStruct floor n ⟨left.tokens ++ (← cast g), .other⟩
      else return left

/-- The rest of an expression that begins with `left`, as far as operators
bind no looser than `floor`. -/
def climb (g : Rules) (allowStruct : Bool) (left : Expr) (floor : Precedence) : Rule Expr := do
  climbWithin g allowStruct floor ((← get).length + 1) left

end EnumCompanion.Grammar
