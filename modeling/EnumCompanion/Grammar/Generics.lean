import EnumCompanion.Grammar.Type

/-!
# `EnumCompanion.Grammar.Generics`: generic parameters and conditions

Empty lists of generic parameters and of conditions are left out.
-/

set_option autoImplicit false

namespace EnumCompanion.Grammar

open Rule

/-- Generic parameters. -/
structure Generics where
  tokens : List Token
  /-- Whether angle brackets are there. -/
  isWritten : Bool
  /-- Whether there is a parameter. -/
  isGeneric : Bool

/-! ### Parameters -/

/-- Generic parameters in angle brackets. -/
def genericParameters (g : Rules) : Rule Generics := do
  let start ← mark "<"
  let entries ← entriesUntil (Ahead.mark ">") (genericParameter g) (mark ",")
  let finish ← mark ">"
  if entries.isEmpty then return ⟨[], true, false⟩
  return ⟨start ++ lifetimesFirst entries ++ finish, true, true⟩

/-- Generic parameters, if there are any. -/
def optionalGenerics (g : Rules) : Rule Generics := do
  if ← sees (Ahead.mark "<") then genericParameters g else return ⟨[], false, false⟩

/-! ### Conditions -/

/-- What ends a list of conditions. -/
def Ahead.endsConditions : Ahead :=
  anyOf [nothing, group .brace, marksOf [",", ";", "="], colon]

/-- What ends the lifetimes that bound a lifetime. -/
def Ahead.endsLifetimes : Ahead :=
  anyOf [nothing, group .brace, marksOf [",", ";", ":", "="]]

/-- A condition on a lifetime or a type. -/
def condition (g : Rules) : Phrase := do
  if ← sees (Ahead.lifetime.both (Ahead.second (Ahead.mark ":"))) then
    join [lifetime, mark ":", lifetimesUntil Ahead.endsLifetimes]
  else
    join [optionalBinder g, typePhrase g true, mark ":",
      boundsUntil g Ahead.endsConditions true]

/-- Conditions behind `where`. -/
def conditions (g : Rules) : Phrase := do
  let start ← word "where"
  let entries ← chainUntil Ahead.endsConditions (condition g) (Ahead.mark ",") (mark ",")
  if entries.isEmpty then return [] else return start ++ flatten entries

/-- Conditions, if there are any. -/
def optionalConditions (g : Rules) : Phrase :=
  whenever (Ahead.word "where") (conditions g)

/-! ### Generics or a path -/

/-- After a keyword, whether angle brackets hold generic parameters and
do not start a path from a type. -/
def Ahead.generics : Ahead :=
  let isEnd : Ahead := fun ts => anyOf [marksOf [">", ",", "="], colon] ts
  (mark "<").both (anyOf
    [second (marksOf [">", "#"]), second (word "const"),
     both (second (anyOf [lifetime, name])) (third isEnd)])

end EnumCompanion.Grammar
