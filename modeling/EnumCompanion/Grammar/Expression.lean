import EnumCompanion.Grammar.Generics
import EnumCompanion.Grammar.Operator

/-!
# `EnumCompanion.Grammar.Expression`: expressions

An operand is an atom with operators in front of it and behind it that
take one operand: calls, fields, indices. Where a block follows, as
behind `if`, a struct literal needs parentheses; rules take a flag that
says whether it does not.

A statement or a match arm that starts like a block ends with it, unless
a point or a question mark follows: `bounded` reads such an expression.
-/

set_option autoImplicit false

namespace EnumCompanion.Grammar

open Rule

/-- An expression of no further interest. -/
def plainExpr (r : Phrase) : Rule Expr := do
  return ⟨← r, .other⟩

/-- An expression that ends a statement with its last brace. -/
def blockExpr (r : Phrase) : Rule Expr := do
  return ⟨← r, .block⟩

/-- The tokens of an expression. -/
def exprPhrase (g : Rules) : Phrase := do
  return (← g.expression true).tokens

/-- The tokens of an expression in front of a block. -/
def headPhrase (g : Rules) : Phrase := do
  return (← g.expression false).tokens

/-- What can begin an expression. -/
def Ahead.beginsExpr : Ahead :=
  anyOf
    [anyWord.but (word "as"), anyGroup, literal, bang, (mark "-").but (marksOf ["-=", "->"]),
     (mark "*").but (mark "*="), (mark "|").but (mark "|="), (mark "&").but (mark "&="),
     mark "..", angle, mark "::", lifetime, mark "#"]

/-! ### Literals of structs and arrays -/

/-- A field of a struct literal. -/
def fieldValue (g : Rules) : Phrase := do
  let attributes ← outer g
  if ← sees Ahead.name then
    let field ← spelt name
    return attributes ++ field ++
      (← whenever (Ahead.mark ":") (join [mark ":", exprPhrase g]))
  else return attributes ++ (← join [position, mark ":", exprPhrase g])

/-- The fields of a struct literal, in at most the given number of rounds;
two points and the value of the other fields may end them. -/
def fieldValuesWithin (g : Rules) : Nat → Phrase
  | 0 => failure
  | n + 1 => do
    if ← sees Ahead.nothing then return []
    if ← sees (Ahead.mark "..") then
      join [mark "..", whenever (Ahead.no Ahead.nothing) (exprPhrase g)]
    else
      let field ← fieldValue g
      if ← sees Ahead.nothing then return field
      let comma ← mark ","
      return field ++ comma ++ (← fieldValuesWithin g n)

/-- The fields of a struct literal. -/
def fieldValues (g : Rules) : Phrase := do
  fieldValuesWithin g ((← get).length + 1)

/-- The content of an array: its items, or one item and their number. -/
def arrayContent (g : Rules) : Phrase := do
  if ← sees Ahead.nothing then return []
  let first ← exprPhrase g
  if ← sees Ahead.nothing then return first
  if ← sees (Ahead.mark ";") then return first ++ (← join [mark ";", exprPhrase g])
  let comma ← mark ","
  return first ++ comma ++ (← commaSeparated (exprPhrase g))

/-! ### Paths and closures -/

/-- An expression that starts with a path: a macro, a struct literal, or
the path itself. -/
def pathExpr (g : Rules) (allowStruct : Bool) : Rule Expr := do
  let (path, tokens) ← qualifiedPath g true
  if path.any Path.isPlain && (← sees Ahead.bang) then
    let isBraced ← sees (Ahead.second (Ahead.group .brace))
    return ⟨tokens ++ (← macroArguments), if isBraced then .bracedMacro else .other⟩
  if allowStruct && (← sees (Ahead.group .brace)) then
    return ⟨tokens ++ (← enclosed .brace (fieldValues g)), .other⟩
  return ⟨tokens, .other⟩

/-- A parameter of a closure. A pattern kept as written loses the
attributes in front of it. -/
def closureParameter (g : Rules) : Phrase := do
  let attributes ← outer g
  let p ← g.pattern
  if ← sees (Ahead.mark ":") then
    return attributes ++ p.tokens ++ (← join [mark ":", typePhrase g true])
  return if p.shape = .verbatim then p.tokens else attributes ++ p.tokens

/-- A closure. -/
def closure (g : Rules) (allowStruct : Bool) : Phrase := do
  let start ← join [optionalBinder g, optionalWord "const", optionalWord "static",
    optionalWord "async", optionalWord "move", mark "|"]
  let parameters ← entriesUntil (Ahead.mark "|") (closureParameter g) (mark ",")
  let finish ← mark "|"
  let body ←
    if ← sees (Ahead.mark "->") then join [resultType g true, block g]
    else pure (← g.expression allowStruct).tokens
  return start ++ flatten parameters ++ finish ++ body

/-! ### Expressions with blocks -/

/-- An `if` with its branches, in at most the given number of conditions. -/
def conditionalWithin (g : Rules) : Nat → Phrase
  | 0 => failure
  | n + 1 => do
    let start ← join [word "if", headPhrase g, block g]
    if ← sees (Ahead.word "else") then
      let or ← word "else"
      if ← sees (Ahead.word "if") then return start ++ or ++ (← conditionalWithin g n)
      return start ++ or ++ (← block g)
    return start

/-- An `if` with its branches. -/
def conditional (g : Rules) : Phrase := do
  conditionalWithin g ((← get).length + 1)

/-- A loop with a condition. -/
def whileLoop (g : Rules) : Phrase :=
  join [word "while", headPhrase g, attributedBlock g]

/-- A loop over items. -/
def forLoop (g : Rules) : Phrase :=
  join [word "for", alternativesPhrase g, word "in", headPhrase g, attributedBlock g]

/-- A loop without an end of its own. -/
def endlessLoop (g : Rules) : Phrase :=
  join [word "loop", attributedBlock g]

/-- What can stand behind a label. -/
def labelled (g : Rules) : Rule Expr := do
  let label ← join [lifetime, mark ":"]
  let body ←
    if ← sees (Ahead.word "while") then whileLoop g
    else if ← sees (Ahead.word "for") then forLoop g
    else if ← sees (Ahead.word "loop") then endlessLoop g
    else attributedBlock g
  return ⟨label ++ body, .block⟩

/-! ### Jumps -/

/-- What a jump gives, if anything. -/
def jumpValue (g : Rules) : Phrase :=
  whenever Ahead.beginsExpr (exprPhrase g)

/-- A jump out of a loop or a block. -/
def breakExpr (g : Rules) (allowStruct : Bool) : Phrase := do
  let start ← word "break"
  let label ← optionalLifetime
  if !label.isEmpty && (← sees (Ahead.mark ":")) then failure
  let value ←
    if !allowStruct && (← sees (Ahead.group .brace)) then pure [] else jumpValue g
  return start ++ label ++ value

/-- A jump that is kept as written. -/
def becomeExpr (g : Rules) : Rule Expr := do
  let start ← get
  let _ ← join [word "become", exprPhrase g]
  return ⟨← since start, .verbatim⟩

/-- A condition that binds names. -/
def letExpr (g : Rules) (allowStruct : Bool) : Phrase := do
  let start ← join [word "let", alternativesPhrase g, mark "="]
  let e ← g.operand allowStruct
  return start ++ (← g.climb allowStruct e .comparison).tokens

/-- An expression built into the compiler, kept as written. -/
def builtinExpr : Rule Expr := do
  let start ← get
  let _ ← join [word "builtin", mark "#", spelt name]
  expects (Ahead.group .parenthesis)
  let _ ← anyGroup
  return ⟨← since start, .verbatim⟩

/-! ### Behind an atom -/

/-- The fields of a chain of positions. -/
def fieldsAt (positions : List Nat) : List Token :=
  positions.flatMap fun n => Token.operator "." ++ [positionToken n]

/-- A field or a method behind a point that has been read. -/
def memberBehind (g : Rules) : Phrase := do
  let point := Token.operator "."
  if ← sees (Ahead.word "await") then return point ++ (← word "await")
  if ← sees Ahead.name then
    let member ← spelt name
    let arguments ←
      whenever (Ahead.mark "::") (join [mark "::", inAngles (angledArgument g)])
    let call ←
      if !arguments.isEmpty || (← sees (Ahead.group .parenthesis)) then
        enclosed .parenthesis (commaSeparated (exprPhrase g))
      else pure []
    return point ++ member ++ arguments ++ call
  return point ++ (← position)

/-- What a floating number is ahead of a rule. -/
def floatAhead? : List Token → Option (List Char)
  | .literal s :: _ => if isFloat s.toList then some s.toList else none
  | _ => none

/-- Fields, by position or by name, and methods behind a point. -/
def members (g : Rules) : Phrase := do
  let _ ← mark "."
  match floatAhead? (← get) with
  | some spelling =>
    let _ ← literal
    match positionsOf? spelling with
    | some (positions, true) => return fieldsAt positions ++ (← memberBehind g)
    | some (positions, false) => return fieldsAt positions
    | none => failure
  | none => memberBehind g

/-- What one call, member, index or question mark adds to an expression;
nothing if none of them is ahead. -/
def suffix? (g : Rules) (e : Expr) : Rule (Option (List Token)) := do
  if ← sees (Ahead.group .parenthesis) then
    return some (← enclosed .parenthesis (commaSeparated (exprPhrase g)))
  else if e.shape != .range && (← sees Ahead.point) then return some (← members g)
  else if ← sees (Ahead.group .bracket) then
    return some (← enclosed .bracket (exprPhrase g))
  else if e.shape != .range && (← sees (Ahead.mark "?")) then return some (← mark "?")
  else return none

/-- An expression with what follows it, in at most the given number of
rounds. -/
def suffixesWithin (g : Rules) : Nat → Expr → Rule Expr
  | 0, _ => failure
  | n + 1, e => do
    match ← suffix? g e with
    | some ts => suffixesWithin g n ⟨e.tokens ++ ts, .other⟩
    | none => return e

/-- An expression with the calls, members, indices and question marks that
follow it. -/
def suffixes (g : Rules) (e : Expr) : Rule Expr := do
  suffixesWithin g ((← get).length + 1) e

/-! ### Atoms -/

/-- What begins a closure. -/
def Ahead.closure : Ahead :=
  anyOf
    [mark "|", words ["move", "static"], (word "for").both fun ts => generics (rest ts),
     (word "const").but (second (group .brace)),
     (word "async").both (second (anyOf [mark "|", word "move"]))]

/-- What begins an asynchronous block. -/
def Ahead.asyncBlock : Ahead :=
  (word "async").both (anyOf
    [second (group .brace), both (second (word "move")) (third (group .brace))])

/-- What begins a block that catches errors. -/
def Ahead.tryBlock : Ahead :=
  (word "try").both (second (group .brace))

/-- What begins a path in an expression. -/
def Ahead.pathExpr : Ahead :=
  anyOf [pathName, marksOf ["::", "<"],
    (word "try").both (second (marksOf ["!", "::"]))]

/-- A block that catches errors. -/
def tryBlock (g : Rules) : Phrase :=
  join [word "try", block g]

/-- An arm of a match. -/
def matchArm (g : Rules) : Phrase := do
  let start ← join [outer g, alternativesPhrase g,
    whenever (Ahead.word "if") (join [word "if", exprPhrase g]), mark "=>"]
  let body ← g.bounded
  let comma ←
    if body.shape != .block && !(← sees Ahead.nothing) then mark "," else optionalMark ","
  return start ++ body.tokens ++ comma

/-- A match. -/
def matchExpr (g : Rules) : Phrase :=
  join [word "match", headPhrase g,
    enclosed .brace (join [inner g, allUntil Ahead.nothing (matchArm g)])]

/-- An expression that starts like a block, if one is ahead. -/
def blockLike? (g : Rules) : Rule (Option Expr) := do
  if ← sees (Ahead.word "if") then return some (← blockExpr (conditional g))
  else if ← sees (Ahead.word "while") then return some (← blockExpr (whileLoop g))
  else if ← sees ((Ahead.word "for").but fun ts => Ahead.generics (Ahead.rest ts)) then
    return some (← blockExpr (forLoop g))
  else if ← sees (Ahead.word "loop") then return some (← blockExpr (endlessLoop g))
  else if ← sees (Ahead.word "match") then return some (← blockExpr (matchExpr g))
  else if ← sees Ahead.tryBlock then return some (← blockExpr (tryBlock g))
  else if ← sees (Ahead.word "unsafe") then
    return some (← blockExpr (join [word "unsafe", attributedBlock g]))
  else if ← sees ((Ahead.word "const").both (Ahead.second (Ahead.group .brace))) then
    return some (← blockExpr (join [word "const", attributedBlock g]))
  else if ← sees (Ahead.group .brace) then return some (← blockExpr (attributedBlock g))
  else if ← sees Ahead.lifetime then return some (← labelled g)
  else return none

/-- An expression without operators. -/
def atom (g : Rules) (allowStruct : Bool) : Rule Expr := do
  if ← sees Ahead.literal then plainExpr literal
  else if ← sees Ahead.asyncBlock then
    plainExpr (join [word "async", optionalWord "move", block g])
  else if ← sees Ahead.tryBlock then blockExpr (tryBlock g)
  else if ← sees Ahead.closure then plainExpr (closure g allowStruct)
  else if ← sees ((Ahead.word "builtin").both (Ahead.second (Ahead.mark "#"))) then builtinExpr
  else if ← sees Ahead.pathExpr then pathExpr g allowStruct
  else if ← sees (Ahead.group .parenthesis) then
    plainExpr (enclosed .parenthesis (commaSeparated (exprPhrase g)))
  else if ← sees (Ahead.word "break") then plainExpr (breakExpr g allowStruct)
  else if ← sees (Ahead.word "continue") then plainExpr (join [word "continue", optionalLifetime])
  else if ← sees (Ahead.word "return") then plainExpr (join [word "return", jumpValue g])
  else if ← sees (Ahead.word "become") then becomeExpr g
  else if ← sees (Ahead.group .bracket) then plainExpr (enclosed .bracket (arrayContent g))
  else if ← sees (Ahead.word "let") then plainExpr (letExpr g allowStruct)
  else if ← sees (Ahead.word "yield") then plainExpr (join [word "yield", jumpValue g])
  else if ← sees (Ahead.mark "..") then return ⟨← rangeEnd g allowStruct, .range⟩
  else if ← sees (Ahead.word "_") then plainExpr (word "_")
  else
    match ← blockLike? g with
    | some e => return e
    | none => failure

/-! ### Operands -/

/-- The mark of a reference, and what kind of one it makes. -/
def borrow : Phrase := do
  let start ← mark "&"
  let isRaw ← sees fun ts =>
    Ahead.word "raw" ts && Ahead.second (Ahead.words ["mut", "const"]) ts
  let raw ← if isRaw then word "raw" else pure []
  let access ←
    if ← sees (Ahead.word "mut") then word "mut"
    else if isRaw then word "const"
    else pure []
  return start ++ raw ++ access

/-- An atom and what follows it, behind the given attributes. An
expression kept as written is so with its attributes, and a range that
lacks its lower bound can have none. -/
def attributedAtom (g : Rules) (start attributes : List Token) (allowStruct : Bool) :
    Rule Expr := do
  let e ← suffixes g (← atom g allowStruct)
  if e.shape = .verbatim then return ⟨← since start, .verbatim⟩
  if e.shape = .range && !attributes.isEmpty then failure
  return { e with tokens := attributes ++ e.tokens }

/-- An operand with the operators in front of it and behind it that take
one operand. -/
def operand (g : Rules) (allowStruct : Bool) : Rule Expr := do
  let start ← get
  let attributes ← outer g
  if ← sees (Ahead.mark "&") then
    let operator ← borrow
    return ⟨attributes ++ operator ++ (← g.operand allowStruct).tokens, .other⟩
  else if ← sees (Ahead.marksOf ["*", "!", "-"]) then
    let operator ←
      if ← sees (Ahead.mark "*") then mark "*"
      else if ← sees (Ahead.mark "!") then mark "!"
      else mark "-"
    return ⟨attributes ++ operator ++ (← g.operand allowStruct).tokens, .other⟩
  else attributedAtom g start attributes allowStruct

/-- An expression. -/
def expression (g : Rules) (allowStruct : Bool) : Rule Expr := do
  let e ← g.operand allowStruct
  g.climb allowStruct e .jump

/-! ### Expressions that end early -/

/-- The expression with attributes in front; one kept as written loses
them. -/
def withAttributes (attributes : List Token) (e : Expr) : Expr :=
  if e.shape = .verbatim then e else { e with tokens := attributes ++ e.tokens }

/-- An expression that ends with its first block, if it starts like one. -/
def bounded (g : Rules) : Rule Expr := do
  let attributes ← outer g
  match ← blockLike? g with
  | none =>
    let e ← g.operand true
    g.climb true (withAttributes attributes e) .jump
  | some e =>
    if ← sees (Ahead.anyOf [Ahead.point, Ahead.mark "?"]) then
      let e ← suffixes g e
      g.climb true (withAttributes attributes e) .jump
    else return withAttributes attributes e

end EnumCompanion.Grammar
