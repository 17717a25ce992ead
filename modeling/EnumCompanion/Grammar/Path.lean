import EnumCompanion.Grammar.Parameter

/-!
# `EnumCompanion.Grammar.Path`: paths, their arguments, and bounds

In a type the arguments of a name follow it directly; in an expression a
`::` has to stand in between, because `<` compares there. A qualified
path starts from a type in angle brackets.

Angled arguments are written with the lifetimes in front, whatever their
order was.
-/

set_option autoImplicit false

namespace EnumCompanion.Grammar

open Rule

/-! ### Results -/

/-- The type of a result, if there is one. -/
def resultType (g : Rules) (allowPlus : Bool) : Phrase :=
  whenever (Ahead.mark "->") (join [mark "->", typePhrase g allowPlus])

/-! ### Arguments -/

/-- Types in parentheses, as arguments of a trait of functions, and the
type of the result. -/
def functionArguments (g : Rules) : Phrase :=
  join [enclosed .parenthesis (commaSeparated (typePhrase g true)), resultType g false]

/-- Whether the path can be the name of an associated type. -/
def isAssociatedName (p : Path) : Bool :=
  match p.segments with
  | [s] => !p.isGlobal && s.arguments != .parenthesized
  | _ => false

/-- An argument in angle brackets: a lifetime, a constant, a type, or what
an associated type is or is bound by. -/
def angledArgument (g : Rules) : Rule AngledEntry := do
  if ← sees (Ahead.lifetime.but (Ahead.second (Ahead.mark "+"))) then return ⟨true, ← lifetime⟩
  if ← sees Ahead.constant then return ⟨false, ← constantArgument g⟩
  let t ← g.type true
  if t.path?.any isAssociatedName then
    if ← sees (Ahead.mark "=") then
      let eq ← mark "="
      let value ←
        if ← sees Ahead.constant then constantArgument g else typePhrase g true
      return ⟨false, t.tokens ++ eq ++ value⟩
    if ← sees (Ahead.mark ":") then
      let colon ← mark ":"
      return ⟨false, t.tokens ++ colon ++ (← boundsUntil g (Ahead.marksOf [",", ">"]) true)⟩
  return ⟨false, t.tokens⟩

/-! ### Paths -/

/-- What starts angled arguments in a type. -/
def Ahead.angle : Ahead :=
  (mark "<").but (marksOf ["<=", "<<="])

/-- A `::` in front of angled arguments. -/
def Ahead.colonsAngle : Ahead :=
  (mark "::").both (third (mark "<"))

/-- A `::` in front of a name. -/
def Ahead.colonsName : Ahead :=
  (mark "::").but (third (group .parenthesis))

/-- A name in a path, and its tokens. In an expression its arguments stand
behind a `::`. -/
def segment (g : Rules) (inExpression : Bool) : Rule (Segment × List Token) := do
  if ← sees (Ahead.words ["super", "self", "crate", "try"]) then
    let i ← anyWord
    return (⟨i, .none⟩, [.ident i])
  let i ← if ← sees (Ahead.word "Self") then anyWord else name
  if ← sees fun ts => (!inExpression && Ahead.angle ts) || Ahead.colonsAngle ts then
    let colons ← optionalMark "::"
    let form := if Ahead.noAngles (← get) then .hollow else .angled
    return (⟨i, form⟩, .ident i :: colons ++ (← inAngles (angledArgument g)))
  return (⟨i, .none⟩, [.ident i])

/-- The path of names that were read. -/
def pathOf (start : List Token) (entries : List (Entry (Segment × List Token))) : Path where
  isGlobal := !start.isEmpty
  segments := entries.map (·.value.1)
  tokens := start ++ entries.flatMap fun e => e.value.2 ++ e.separator

/-- Names with `::` between them; `more` says when there is another. -/
def segments (g : Rules) (inExpression : Bool) (more : Ahead) :
    Rule (List (Entry (Segment × List Token))) :=
  chainUntil (fun _ => false) (segment g inExpression) more (mark "::")

/-- A path that starts from no type. -/
def path (g : Rules) (inExpression : Bool) : Rule Path := do
  let start ← optionalMark "::"
  return pathOf start (← segments g inExpression Ahead.colonsName)

/-- The type in angle brackets that a qualified path starts from, with the
`::` behind it. -/
def qualifier (g : Rules) : Phrase :=
  join [mark "<", typePhrase g true,
    whenever (Ahead.word "as") (join [word "as", do return (← path g false).tokens]),
    mark ">", mark "::"]

/-- A path, and its tokens; there is no path by itself if it starts from a
type. -/
def qualifiedPath (g : Rules) (inExpression : Bool) : Rule (Option Path × List Token) := do
  if ← sees (Ahead.mark "<") then
    let start ← qualifier g
    let rest := pathOf [] (← segments g inExpression (Ahead.mark "::"))
    return (none, start ++ rest.tokens)
  let p ← path g inExpression
  return (some p, p.tokens)

/-! ### Bounds -/

/-- The names that a type captures. -/
def captures : Phrase := do
  let entry : Rule AngledEntry := do
    if ← sees Ahead.lifetime then return ⟨true, ← lifetime⟩
    else if ← sees (Ahead.word "Self") then return ⟨false, ← word "Self"⟩
    else return ⟨false, ← spelt name⟩
  join [word "use", inAngles entry]

/-- The mark of a trait for constants. There is none, or it is in
brackets, or it is the bare word. -/
def constantMark : Phrase := do
  if ← sees (Ahead.group .bracket) then enclosed .bracket (word "const")
  else optionalWord "const"

/-- The arguments of a trait of functions, which may stand behind a `::`. -/
def Ahead.functionArguments : Ahead :=
  anyOf [group .parenthesis, (mark "::").both (third (group .parenthesis))]

/-- The last name of a path without empty angle brackets behind it. -/
def withoutAngles (entries : List (Entry (Segment × List Token))) :
    List (Entry (Segment × List Token)) :=
  entries.map fun e =>
    if e.separator.isEmpty then { e with value := (e.value.1, [.ident e.value.1.name]) } else e

/-- The path of a trait bound. Of the arguments of a trait of functions a
`::` in front is left out, and so are empty angle brackets. -/
def traitPath (g : Rules) : Phrase := do
  let start ← optionalMark "::"
  let entries ← segments g false Ahead.colonsName
  let p := pathOf start entries
  if p.last?.any (·.arguments.isEmpty) && (← sees Ahead.functionArguments) then
    let _ ← optionalMark "::"
    return (pathOf start (withoutAngles entries)).tokens ++ (← functionArguments g)
  return p.tokens

/-- A trait bound short of parentheses: whether it is one for constants,
and its tokens. -/
def traitBound (g : Rules) (allowConstant : Bool) : Rule (Bool × List Token) := do
  let before ← optionalBinder g
  let constant ← constantMark
  if !constant.isEmpty && !allowConstant then failure
  let maybe ← optionalMark "?"
  let after ←
    if before.isEmpty && !maybe.isEmpty then optionalBinder g else pure []
  let path ← traitPath g
  let lifetimes := before ++ after
  if !lifetimes.isEmpty && !maybe.isEmpty then failure
  return (!constant.isEmpty, maybe ++ lifetimes ++ path)

/-- A bound on a type. One on a trait for constants is kept as written. -/
def bound (g : Rules) (allowCaptures allowConstant : Bool) : Rule Bound := do
  if ← sees Ahead.lifetime then
    let ts ← lifetime
    return ⟨ts, ts, false⟩
  if ← sees (Ahead.word "use") then
    let ts ← captures
    if allowCaptures then return ⟨ts, ts, false⟩ else failure
  let start ← get
  let isEnclosed ← sees (Ahead.group .parenthesis)
  let (isConstant, inner) ←
    if isEnclosed then inside .parenthesis (traitBound g allowConstant)
    else traitBound g allowConstant
  if isConstant then
    let written ← since start
    return ⟨written, written, true⟩
  return ⟨if isEnclosed then Token.enclosed .parenthesis inner else inner, inner, true⟩

/-- What may start a bound behind a `+`. -/
def Ahead.bound (allowConstant : Bool) : Ahead :=
  fun ts =>
    anyOf [anyWord, mark "::", mark "?", lifetime, group .parenthesis] ts ||
      (allowConstant && anyOf [group .bracket, word "const"] ts)

/-- Bounds with `+` between them, or one bound if there may be no `+`. -/
def bounds (g : Rules) (allowPlus allowCaptures allowConstant : Bool) :
    Rule (List (Entry Bound)) :=
  chainUntil (Ahead.no (Ahead.bound allowConstant)) (g.bound allowCaptures allowConstant)
    (fun ts => allowPlus && Ahead.mark "+" ts) (mark "+")

end EnumCompanion.Grammar
