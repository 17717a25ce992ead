import EnumCompanion.Grammar.Member
import EnumCompanion.Grammar.Path

/-!
# `EnumCompanion.Grammar.Pattern`: patterns

A pattern without alternatives is read by `pattern`, one with them by
`alternatives`. Ranges are written with two points or two points and an
equals sign; the old form with three points is read as the latter.
-/

set_option autoImplicit false

namespace EnumCompanion.Grammar

open Rule

/-- A pattern of no further interest. -/
def plainPattern (r : Phrase) : Rule Pattern := do
  return ⟨← r, .other⟩

/-! ### Alternatives -/

/-- The mark between alternatives. -/
def Ahead.bar : Ahead :=
  (mark "|").but (marksOf ["||", "|="])

/-- A pattern with alternatives; a bar may stand in front. -/
def alternatives (g : Rules) : Rule Pattern := do
  let start ← optionalMark "|"
  let first ← g.pattern
  let more ← allUntil (Ahead.no Ahead.bar) (join [mark "|", do return (← g.pattern).tokens])
  if start.isEmpty && more.isEmpty then return first
  return ⟨start ++ first.tokens ++ more, .other⟩

/-- The tokens of a pattern with alternatives. -/
def alternativesPhrase (g : Rules) : Phrase := do
  return (← alternatives g).tokens

/-! ### Ranges -/

/-- The points of a range. Three points are read as those of a closed one
if `allowOld` holds. -/
def rangePoints (allowOld : Bool) : Rule (Bool × List Token) := do
  if ← sees (Ahead.mark "..=") then return (true, ← mark "..=")
  else if ← sees (Ahead.mark "...") then
    if allowOld then
      let _ ← mark "..."
      return (true, Token.operator "..=")
    else failure
  else return (false, ← mark "..")

/-- What stands where a bound of a range is left out. -/
def Ahead.noRangeBound : Ahead :=
  anyOf [nothing, marksOf ["|", "=", ",", ";"], colon, word "if"]

/-- A bound of a range: a literal, a path or a block of a constant. -/
def rangeBound (g : Rules) : Phrase := do
  if ← sees Ahead.literal then literal
  else if ← sees (Ahead.anyOf [Ahead.pathName, Ahead.marksOf ["::", "<"]]) then
    return (← qualifiedPath g true).2
  else join [word "const", attributedBlock g]

/-- A bound of a range, or nothing if it is left out. -/
def optionalRangeBound (g : Rules) : Phrase := do
  if ← sees Ahead.noRangeBound then return [] else rangeBound g

/-- The pattern that starts with a bound: the bound or a range from it. -/
def rangeFrom (g : Rules) (start : List Token) : Rule Pattern := do
  if ← sees (Ahead.mark "..") then
    let (isClosed, points) ← rangePoints true
    let finish ← optionalRangeBound g
    if finish.isEmpty then
      if isClosed then failure else return ⟨start ++ points, .openRange⟩
    return ⟨start ++ points ++ finish, .other⟩
  return ⟨start, .other⟩

/-- A range without a lower bound, or the two points that stand for what
is left. -/
def rangeTo (g : Rules) : Rule Pattern := do
  let (isClosed, points) ← rangePoints false
  let finish ← optionalRangeBound g
  if finish.isEmpty then
    if isClosed then failure else return ⟨points, .rest⟩
  return ⟨points ++ finish, .openRange⟩

/-! ### Patterns that start with a path -/

/-- A field of a pattern of a struct. A box is kept as written. -/
def fieldPattern (g : Rules) : Phrase := do
  let start ← get
  let box ← optionalWord "box"
  let modifiers ← join [optionalWord "ref", optionalWord "mut"]
  if box.isEmpty && modifiers.isEmpty then
    if ← sees Ahead.name then
      let field ← spelt name
      if ← sees (Ahead.mark ":") then
        return field ++ (← join [mark ":", alternativesPhrase g])
      return field
    else join [position, mark ":", alternativesPhrase g]
  else
    let field ← spelt name
    if box.isEmpty then return modifiers ++ field else since start

/-- The fields of a pattern of a struct, in at most the given number of
rounds; two points may end them. -/
def fieldPatternsWithin (g : Rules) : Nat → Phrase
  | 0 => failure
  | n + 1 => do
    if ← sees Ahead.nothing then return []
    let attributes ← outer g
    if ← sees (Ahead.mark "..") then return attributes ++ (← mark "..")
    let field ← fieldPattern g
    if ← sees Ahead.nothing then return attributes ++ field
    let comma ← mark ","
    return attributes ++ field ++ comma ++ (← fieldPatternsWithin g n)

/-- The fields of a pattern of a struct. -/
def fieldPatterns (g : Rules) : Phrase := do
  fieldPatternsWithin g ((← get).length + 1)

/-- A pattern that starts with a path. -/
def pathPattern (g : Rules) : Rule Pattern := do
  let (path, tokens) ← qualifiedPath g true
  if path.any Path.isPlain && (← sees Ahead.bang) then
    return ⟨tokens ++ (← macroArguments), .other⟩
  if ← sees (Ahead.group .brace) then
    return ⟨tokens ++ (← enclosed .brace (fieldPatterns g)), .other⟩
  if ← sees (Ahead.group .parenthesis) then
    return ⟨tokens ++ (← enclosed .parenthesis (commaSeparated (alternativesPhrase g))), .other⟩
  rangeFrom g tokens

/-! ### Other patterns -/

/-- A name that is bound, and the pattern that what it is bound to has to
match. -/
def bindingPattern (g : Rules) : Rule Pattern := do
  let start ← join [optionalWord "ref", optionalWord "mut"]
  let i ← if ← sees (Ahead.word "self") then anyWord else name
  let rest ← whenever (Ahead.mark "@") (join [mark "@", do return (← g.pattern).tokens])
  return ⟨start ++ .ident i :: rest, .binding i⟩

/-- A pattern in brackets. A range in it needs both bounds, or has to stand
in parentheses. -/
def bracketPattern (g : Rules) : Phrase := do
  let entry : Phrase := do
    let p ← alternatives g
    if p.shape = .openRange then failure else return p.tokens
  enclosed .bracket (commaSeparated entry)

/-- A boxed pattern, kept as written. -/
def boxPattern (g : Rules) : Rule Pattern := do
  let start ← get
  let _ ← word "box"
  let _ ← g.pattern
  return ⟨← since start, .verbatim⟩

/-! ### Patterns -/

/-- A name with something behind it that makes it a path. -/
def Ahead.pathPattern : Ahead :=
  anyOf
    [name.both (second (anyOf
      [marksOf ["::", "!", ".."], group .brace, group .parenthesis])),
     (word "self").both (second (mark "::")), marksOf ["::", "<"],
     words ["Self", "super", "crate"]]

/-- A pattern without alternatives. -/
def pattern (g : Rules) : Rule Pattern := do
  if ← sees Ahead.pathPattern then pathPattern g
  else if ← sees (Ahead.word "_") then plainPattern (word "_")
  else if ← sees (Ahead.word "box") then boxPattern g
  else if ← sees (Ahead.anyOf [Ahead.mark "-", Ahead.literal, Ahead.word "const"]) then
    rangeFrom g (← rangeBound g)
  else if ← sees (Ahead.anyOf [Ahead.words ["ref", "mut", "self"], Ahead.name]) then
    bindingPattern g
  else if ← sees (Ahead.mark "&") then
    plainPattern (join [mark "&", optionalWord "mut", do return (← g.pattern).tokens])
  else if ← sees (Ahead.group .parenthesis) then
    plainPattern (enclosed .parenthesis (commaSeparated (alternativesPhrase g)))
  else if ← sees (Ahead.group .bracket) then plainPattern (bracketPattern g)
  else rangeTo g

end EnumCompanion.Grammar
