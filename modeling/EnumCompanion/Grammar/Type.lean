import EnumCompanion.Grammar.Path

/-!
# `EnumCompanion.Grammar.Type`: types

A type without `dyn` in front may still be a sum of bounds, if the place
allows a `+`: after a path, and after a type in parentheses that is a
path or one bound.
-/

set_option autoImplicit false

namespace EnumCompanion.Grammar

open Rule

/-- A type of no further interest. -/
def plainType (r : Phrase) : Rule TypeTree := do
  return ⟨← r, .other⟩

/-! ### Sums of bounds -/

/-- Further bounds behind a `+`, each of them there. -/
def strictSum (g : Rules) : Phrase :=
  allUntil (Ahead.no (Ahead.mark "+"))
    (join [mark "+", do return (← g.bound false false).tokens])

/-- Further bounds behind a `+`; the last `+` may have none behind it. -/
def looseSum (g : Rules) : Phrase := do
  if ← sees (Ahead.mark "+") then
    let plus ← mark "+"
    return plus ++ boundTokens (← bounds g true false false)
  return []

/-- Bounds of which one at least is a trait. -/
def traitBounds (g : Rules) (allowPlus allowCaptures allowConstant : Bool) : Phrase := do
  let entries ← bounds g allowPlus allowCaptures allowConstant
  if entries.any (·.value.isTrait) then return boundTokens entries else failure

/-! ### Types in parentheses -/

/-- What stands in parentheses where a type is expected. -/
inductive Parenthesized where
  /-- A type or a tuple that is complete. -/
  | closed (tokens : List Token)
  /-- A bound with `?`, to which others may be added. -/
  | bound (inner : List Token)
  /-- A type that could be a bound. -/
  | type (t : TypeTree)

/-- The content of parentheses where a type is expected. -/
def parenthesized (g : Rules) : Rule Parenthesized := do
  if ← sees Ahead.nothing then return .closed []
  if ← sees Ahead.lifetime then return .closed (← traitBounds g true false false)
  if ← sees (Ahead.mark "?") then return .bound (← traitBound g false).2
  let first ← g.type true
  if ← sees (Ahead.mark ",") then
    let comma ← mark ","
    return .closed (first.tokens ++ comma ++ (← commaSeparated (typePhrase g true)))
  return .type first

/-- A sum whose first bound stands in parentheses. A bound that is alone in
there has no parentheses of its own. -/
def parenthesizedSum (g : Rules) (inner : List Token) : Rule TypeTree := do
  let first := Token.enclosed .parenthesis inner
  let more ← strictSum g
  return ⟨first ++ more, if more.isEmpty then .bound inner else .other⟩

/-- A type that starts with parentheses. -/
def parenthesizedType (g : Rules) (allowPlus : Bool) : Rule TypeTree := do
  match ← inside .parenthesis (parenthesized g) with
  | .closed ts => return ⟨Token.enclosed .parenthesis ts, .other⟩
  | .bound inner => parenthesizedSum g inner
  | .type t =>
    if allowPlus && (← sees (Ahead.mark "+")) then
      match t.shape with
      | .path p => return ← parenthesizedSum g p.tokens
      | .bound inner => return ← parenthesizedSum g inner
      | .other => pure ()
    return ⟨Token.enclosed .parenthesis t.tokens, .other⟩

/-! ### Function types -/

/-- The words `mut self`. -/
def Ahead.mutSelf : Ahead :=
  (word "mut").both (second (word "self"))

/-- A name or an underscore. -/
def Ahead.nameOrBlank : Ahead :=
  anyOf [name, word "_"]

/-- A named or nameless parameter of a function type. A receiver `mut self`
is admitted as the first parameter, and is kept as written. -/
def functionTypeParameter (g : Rules) (isFirst : Bool) : Phrase := do
  let start ← get
  let isMutable := isFirst && Ahead.mutSelf start
  if isMutable then
    let _ ← word "mut"
  let isSelf ← sees fun ts => isFirst && Ahead.word "self" ts && Ahead.second Ahead.colon ts
  let isNamed ← sees fun ts => Ahead.nameOrBlank ts && Ahead.second Ahead.colon ts
  let label ← if isSelf || isNamed then join [spelt anyWord, mark ":"] else pure []
  if !isSelf && (← sees fun ts => isFirst && Ahead.mutSelf ts) then
    let _ ← join [word "mut", word "self"]
    since start
  else if isMutable then
    let _ ← if label.isEmpty then word "self" else typePhrase g true
    since start
  else return label ++ (← typePhrase g true)

/-- The dots of a variadic function. -/
def Ahead.variadic : Ahead :=
  fun ts => mark "..." ts ||
    (nameOrBlank ts && second (mark ":") ts && third (mark "...") ts)

/-- The dots of a variadic function type, which may have a name. -/
def variadicType : Phrase :=
  join [whenever Ahead.nameOrBlank (join [spelt anyWord, mark ":"]), mark "...", optionalMark ","]

/-- The parameters of a function type, in at most the given number of
rounds. -/
def functionTypeParametersWithin (g : Rules) : Nat → Bool → Phrase
  | 0, _ => failure
  | n + 1, isFirst => do
    if ← sees Ahead.nothing then return []
    let attributes ← outer g
    if ← sees Ahead.variadic then return attributes ++ (← variadicType)
    let parameter ← functionTypeParameter g isFirst
    if ← sees Ahead.nothing then return attributes ++ parameter
    let comma ← mark ","
    return attributes ++ parameter ++ comma ++ (← functionTypeParametersWithin g n false)

/-- The parameters of a function type. -/
def functionTypeParameters (g : Rules) : Phrase := do
  functionTypeParametersWithin g ((← get).length + 1) true

/-- The calling convention of a function. -/
def convention : Phrase :=
  join [word "extern", whenever Ahead.string literal]

/-- The calling convention of a function, if one is given. -/
def optionalConvention : Phrase :=
  whenever (Ahead.word "extern") convention

/-- A function type. -/
def functionType (g : Rules) : Phrase :=
  join [optionalWord "unsafe", optionalConvention, word "fn",
    enclosed .parenthesis (functionTypeParameters g), resultType g false]

/-! ### Paths -/

/-- A type that starts with a path: a macro, a sum of bounds, or the path
itself. -/
def pathType (g : Rules) (allowPlus : Bool) (lifetimes : List Token) : Rule TypeTree := do
  let (path, tokens) ← qualifiedPath g false
  match path with
  | none => return ⟨lifetimes ++ tokens, .other⟩
  | some p =>
    if p.isPlain && (← sees Ahead.bang) then
      return ⟨tokens ++ (← macroArguments), .other⟩
    if !lifetimes.isEmpty || (allowPlus && (← sees (Ahead.mark "+"))) then
      let first := lifetimes ++ tokens
      let more ← if allowPlus then looseSum g else pure []
      return ⟨first ++ more, if more.isEmpty then .bound first else .other⟩
    return ⟨tokens, .path p⟩

/-! ### Other types -/

/-- A list or an array. -/
def bracketType (g : Rules) : Phrase :=
  enclosed .bracket (join [typePhrase g true,
    whenever (Ahead.mark ";") (join [mark ";", do return (← g.expression true).tokens])])

/-- A pointer. -/
def pointerType (g : Rules) : Phrase := do
  let star ← mark "*"
  let access ← if ← sees (Ahead.word "const") then word "const" else word "mut"
  return star ++ access ++ (← typePhrase g false)

/-- A reference. -/
def referenceType (g : Rules) : Phrase :=
  join [mark "&", optionalLifetime, optionalWord "mut", typePhrase g false]

/-- A type of all that implement some traits, told at run time. The form
with a star is kept as written. -/
def dynamicType (g : Rules) (allowPlus : Bool) : Phrase := do
  let start ← get
  let head ← word "dyn"
  let star ← optionalMark "*"
  let bounds ← traitBounds g allowPlus false false
  if star.isEmpty then return head ++ bounds else since start

/-! ### Types -/

/-- What may follow the lifetimes that `for` binds in a type. -/
def Ahead.afterFor : Ahead :=
  anyOf [name, words ["fn", "unsafe", "extern", "super", "self", "Self", "crate"]]

/-- A type. -/
def type (g : Rules) (allowPlus : Bool) : Rule TypeTree := do
  let lifetimes ← optionalBinder g
  if !lifetimes.isEmpty then expects Ahead.afterFor
  if ← sees (Ahead.group .parenthesis) then parenthesizedType g allowPlus
  else if ← sees (Ahead.words ["fn", "unsafe", "extern"]) then
    plainType (do return lifetimes ++ (← functionType g))
  else if ← sees (Ahead.anyOf [Ahead.pathName, Ahead.mark "::", Ahead.mark "<"]) then
    pathType g allowPlus lifetimes
  else if ← sees (Ahead.word "dyn") then plainType (dynamicType g allowPlus)
  else if ← sees (Ahead.group .bracket) then plainType (bracketType g)
  else if ← sees (Ahead.mark "*") then plainType (pointerType g)
  else if ← sees (Ahead.mark "&") then plainType (referenceType g)
  else if ← sees (Ahead.mark "!") then plainType (mark "!")
  else if ← sees (Ahead.word "impl") then
    plainType (join [word "impl", traitBounds g allowPlus true true])
  else if ← sees (Ahead.word "_") then plainType (word "_")
  else if ← sees Ahead.lifetime then plainType (traitBounds g true false false)
  else failure

end EnumCompanion.Grammar
