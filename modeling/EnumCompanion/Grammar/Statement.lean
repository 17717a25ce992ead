import EnumCompanion.Grammar.Expression

/-!
# `EnumCompanion.Grammar.Statement`: statements

A block holds statements: items, bindings, macros and expressions. An
expression needs a semicolon behind it unless it ends the block or ends
with a block of its own.
-/

set_option autoImplicit false

namespace EnumCompanion.Grammar

open Rule

/-- A statement, and whether something has to separate it from the
next. -/
structure Statement where
  tokens : List Token
  isOpen : Bool

/-! ### What starts a statement -/

/-- A word after `static` that makes it an item. -/
def Ahead.staticItem : Ahead :=
  let isClosure : Ahead :=
    both (second (word "async")) (third (anyOf [word "move", mark "|"]))
  (word "static").both (anyOf [second (word "mut"), (second name).but isClosure])

/-- What makes `const` an item. -/
def Ahead.constItem : Ahead :=
  let isClosure : Ahead :=
    (second (word "async")).but (third (words ["unsafe", "extern", "fn"]))
  (word "const").but (anyOf
    [second (group .brace), second (words ["static", "move"]), second (mark "|"), isClosure])

/-- What starts an item among statements. -/
def Ahead.startsItem : Ahead :=
  anyOf
    [words ["pub", "extern", "use", "fn", "mod", "type", "struct", "enum", "trait", "impl",
      "macro"],
     (word "crate").but (second (mark "::")), staticItem, constItem,
     (word "unsafe").but (second (group .brace)),
     (word "async").both (second (words ["unsafe", "extern", "fn"])),
     (word "union").both (second name), (word "auto").both (second (word "trait")),
     (word "default").both (second (words ["unsafe", "impl"]))]

/-- What follows a plain path, if one is ahead. -/
def afterPath? (ts : List Token) : Option (List Token) :=
  (plainPath ts).map Prod.snd

/-- A macro that is an item, because a name stands behind its mark. -/
def Ahead.itemMacro : Ahead :=
  fun ts => (afterPath? ts).any ((mark "!").both (second (anyOf [name, word "try"])))

/-- A macro with its arguments in braces and nothing behind it that makes
it part of an expression. -/
def Ahead.statementMacro : Ahead :=
  let goesOn : Ahead := third (anyOf [point, mark "?"])
  fun ts => (afterPath? ts).any (((mark "!").both (second (group .brace))).but goesOn)

/-! ### Statements -/

/-- A binding. -/
def binding (g : Rules) : Phrase := do
  let start ← join [word "let", do return (← g.pattern).tokens,
    whenever (Ahead.mark ":") (join [mark ":", typePhrase g true])]
  let value ←
    if ← sees (Ahead.mark "=") then
      let eq ← mark "="
      let e ← g.expression true
      let otherwise ←
        if e.endsInBrace then pure []
        else whenever (Ahead.word "else") (join [word "else", block g])
      pure (eq ++ e.tokens ++ otherwise)
    else pure []
  return start ++ value ++ (← mark ";")

/-- An expression as a statement. -/
def expressionStatement (g : Rules) (attributes : List Token) : Rule Statement := do
  let e ← g.bounded
  let semicolon ← optionalMark ";"
  let isOpen := semicolon.isEmpty && e.shape != .block && e.shape != .bracedMacro
  return ⟨(withAttributes attributes e).tokens ++ semicolon, isOpen⟩

/-- A statement. -/
def statement (g : Rules) : Rule Statement := do
  let start ← get
  let attributes ← outer g
  if ← sees Ahead.statementMacro then
    let call ← join [do return (← plainPath).tokens, macroArguments, optionalMark ";"]
    return ⟨attributes ++ call, false⟩
  else if ← sees (Ahead.word "let") then return ⟨attributes ++ (← binding g), false⟩
  else if ← sees (Ahead.anyOf [Ahead.startsItem, Ahead.itemMacro]) then
    set start
    return ⟨(← g.item).tokens, false⟩
  else expressionStatement g attributes

/-- Statements, in at most the given number of rounds. -/
def statementsWithin (g : Rules) : Nat → Phrase
  | 0 => failure
  | n + 1 => do
    let semicolons ← allUntil (Ahead.no (Ahead.mark ";")) (mark ";")
    if ← sees Ahead.nothing then return semicolons
    let s ← statement g
    if ← sees Ahead.nothing then return semicolons ++ s.tokens
    if s.isOpen then failure
    return semicolons ++ s.tokens ++ (← statementsWithin g n)

/-- The statements of a block. -/
def statements (g : Rules) : Phrase := do
  statementsWithin g ((← get).length + 1)

end EnumCompanion.Grammar
