import EnumCompanion.Grammar.Attribute

/-!
# `EnumCompanion.Grammar.Parameter`: generic parameters and binders

A generic parameter is a lifetime, a type or a constant. In angle brackets
the lifetimes are written in front, whatever their order was; behind `for`
the parameters keep their order. A colon without bounds is left out.
-/

set_option autoImplicit false

namespace EnumCompanion.Grammar

open Rule

/-! ### Types as phrases -/

/-- The tokens of a type. -/
def typePhrase (g : Rules) (allowPlus : Bool) : Phrase := do
  return (← g.type allowPlus).tokens

/-! ### Lists in angle brackets -/

/-- An entry of a list in angle brackets, and whether it is a lifetime. -/
structure AngledEntry where
  isLifetime : Bool
  tokens : List Token

/-- The tokens of the entries with the lifetimes in front. A comma is put
between a lifetime that came last and the rest. -/
def lifetimesFirst (entries : List (Entry AngledEntry)) : List Token :=
  let write (es : List (Entry AngledEntry)) := es.flatMap fun e => e.value.tokens ++ e.separator
  let lifetimes := entries.filter (·.value.isLifetime)
  let others := entries.filter (!·.value.isLifetime)
  let isOpen := lifetimes.getLast?.any (·.separator.isEmpty) && !others.isEmpty
  write lifetimes ++ (if isOpen then Token.operator "," else []) ++ write others

/-- A list in angle brackets. -/
def inAngles (entry : Rule AngledEntry) : Phrase := do
  let start ← mark "<"
  let entries ← entriesUntil (Ahead.mark ">") entry (mark ",")
  return start ++ lifetimesFirst entries ++ (← mark ">")

/-- An empty list in angle brackets. -/
def Ahead.noAngles : Ahead :=
  (mark "<").both (second (mark ">"))

/-! ### Constants and bounds -/

/-- A constant among arguments that is no name: a literal or a block. -/
def Ahead.constant : Ahead :=
  anyOf [literal, group .brace]

/-- A constant among arguments. -/
def constantArgument (g : Rules) : Phrase := do
  if ← sees Ahead.literal then literal
  else if ← sees Ahead.name then spelt name
  else attributedBlock g

/-- The tokens of bounds in order. -/
def boundTokens (entries : List (Entry Bound)) : List Token :=
  entries.flatMap fun e => e.value.tokens ++ e.separator

/-- Bounds up to the point where the answer to `stop` is yes. -/
def boundsUntil (g : Rules) (stop : Ahead) (allowConstant : Bool) : Phrase := do
  return boundTokens (← chainUntil stop (g.bound false allowConstant) (Ahead.mark "+") (mark "+"))

/-- A colon and what it introduces, or nothing if it introduces nothing. -/
def colonUnlessEmpty (ts : List Token) : List Token :=
  if ts.isEmpty then [] else Token.operator ":" ++ ts

/-! ### Parameters -/

/-- Lifetimes with `+` between them, up to the point where the answer to
`stop` is yes. -/
def lifetimesUntil (stop : Ahead) : Phrase := do
  return flatten (← chainUntil stop lifetime (Ahead.mark "+") (mark "+"))

/-- A parameter for lifetimes. -/
def lifetimeParameter : Phrase := do
  let name ← lifetime
  if ← sees (Ahead.mark ":") then
    let _ ← mark ":"
    let bounds ← lifetimesUntil (Ahead.anyOf [Ahead.nothing, Ahead.marksOf [",", ">"]])
    return name ++ colonUnlessEmpty bounds
  return name

/-- A parameter for types. -/
def typeParameter (g : Rules) : Phrase := do
  let name ← spelt name
  let bounds ←
    if ← sees (Ahead.mark ":") then
      let _ ← mark ":"
      boundsUntil g (Ahead.anyOf [Ahead.nothing, Ahead.marksOf [",", ">", "="]]) true
    else pure []
  let default ← whenever (Ahead.mark "=") (join [mark "=", typePhrase g true])
  return name ++ colonUnlessEmpty bounds ++ default

/-- A parameter for constants. -/
def constantParameter (g : Rules) : Phrase :=
  join [word "const", spelt name, mark ":", typePhrase g true,
    whenever (Ahead.mark "=") (join [mark "=", constantArgument g])]

/-- A generic parameter with the attributes in front of it. -/
def genericParameter (g : Rules) : Rule AngledEntry := do
  let attributes ← outer g
  if ← sees Ahead.lifetime then return ⟨true, attributes ++ (← lifetimeParameter)⟩
  else if ← sees Ahead.name then return ⟨false, attributes ++ (← typeParameter g)⟩
  else if ← sees (Ahead.word "const") then return ⟨false, attributes ++ (← constantParameter g)⟩
  else return ⟨false, attributes ++ (← word "_")⟩

/-! ### Binders -/

/-- Generic parameters bound by `for`, in the order that they have. -/
def binder (g : Rules) : Phrase := do
  let start ← join [word "for", mark "<"]
  let entries ← entriesUntil (Ahead.mark ">") (genericParameter g) (mark ",")
  let written := entries.flatMap fun e => e.value.tokens ++ e.separator
  return start ++ written ++ (← mark ">")

/-- Generic parameters bound by `for`, if they are ahead. -/
def optionalBinder (g : Rules) : Phrase :=
  whenever (Ahead.word "for") (binder g)

end EnumCompanion.Grammar
