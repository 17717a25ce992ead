import EnumCompanion.Grammar.Statement

/-!
# `EnumCompanion.Grammar.Function`: signatures of functions

A signature is all of a function in front of its body. Its first
parameter may be a receiver, and dots may end the parameters.
-/

set_option autoImplicit false

namespace EnumCompanion.Grammar

open Rule

/-! ### Visibility -/

/-- The restriction behind `pub`: a word that starts a path on its own, or
`in` and a path. -/
def restriction : Phrase := do
  if ← sees (Ahead.word "in") then
    join [word "in", do return (← plainPath).tokens]
  else spelt anyWord

/-- Whether parentheses behind `pub` restrict it. Otherwise they are the
type of a field. -/
def restricts : Ahead
  | .group .parenthesis ts :: _ =>
    Ahead.word "in" ts ||
      (Ahead.words ["crate", "self", "super"] ts && Ahead.nothing (ts.drop 1))
  | _ => false

/-- How far an item can be seen, if it is said. -/
def visibility : Phrase :=
  whenever (Ahead.word "pub")
    (join [word "pub", whenever restricts (enclosed .parenthesis restriction)])

/-! ### Parameters -/

/-- A parameter of a function; dots stand for any number of them. -/
inductive FunctionParameter where
  | receiver
  | typed (argument : Argument)
  | dots

/-- The argument that a parameter stands for. -/
def FunctionParameter.argument? : FunctionParameter → Option Argument
  | .typed a => some a
  | _ => none

/-- Whether the parameter is a receiver. -/
def FunctionParameter.isReceiver : FunctionParameter → Bool
  | .receiver => true
  | _ => false

/-- A receiver. -/
def receiver (g : Rules) : Phrase := do
  let reference ← whenever (Ahead.mark "&") (join [mark "&", optionalLifetime])
  let self ← join [optionalWord "mut", word "self"]
  let type ←
    if reference.isEmpty then whenever (Ahead.mark ":") (join [mark ":", typePhrase g true])
    else pure []
  return reference ++ self ++ type

/-- A pattern and its type, or dots in place of the type. A type alone is
admitted if it is a name with arguments, and gets an underscore in
front. -/
def typedParameter (g : Rules) : Rule (FunctionParameter × List Token) := do
  if ← sees (Ahead.name.both (Ahead.second (Ahead.mark "<"))) then
    let type ← typePhrase g true
    return (.typed ⟨none, type⟩, Token.word "_" ++ Token.operator ":" ++ type)
  let p ← g.pattern
  let colon ← mark ":"
  if ← sees (Ahead.mark "...") then return (.dots, p.tokens ++ colon ++ (← mark "..."))
  let type ← typePhrase g true
  let name := match p.shape with | .binding i => some i | _ => none
  return (.typed ⟨name, type⟩, p.tokens ++ colon ++ type)

/-- A parameter, and its tokens. What can be read as a receiver is one. -/
def functionParameter (g : Rules) : Rule (FunctionParameter × List Token) := do
  if ← sees (Ahead.mark "...") then return (.dots, ← mark "...")
  match receiver g (← get) with
  | some (ts, rest) =>
    set rest
    return (.receiver, ts)
  | none => typedParameter g

/-- The parameters of a function, in at most the given number of rounds.
Only the first can be a receiver, and dots end the list. -/
def functionParametersWithin (g : Rules) :
    Nat → Bool → Rule (List FunctionParameter × List Token)
  | 0, _ => failure
  | n + 1, isFirst => do
    if ← sees Ahead.nothing then return ([], [])
    let attributes ← outer g
    let (parameter, ts) ← functionParameter g
    if parameter.isReceiver && !isFirst then failure
    let comma ← whenever (Ahead.no Ahead.nothing) (mark ",")
    let (more, rest) ←
      match parameter with
      | .dots => pure ([], [])
      | _ => functionParametersWithin g n false
    return (parameter :: more, attributes ++ ts ++ comma ++ rest)

/-- The parameters of a function. -/
def functionParameters (g : Rules) : Rule (List FunctionParameter × List Token) := do
  functionParametersWithin g ((← get).length + 1) true

/-! ### Signatures -/

/-- Whether a function is unsafe, or said to be safe where that is
allowed. -/
def safety (allowSafe : Bool) : Phrase := do
  if allowSafe && (← sees (Ahead.word "safe")) then word "safe" else optionalWord "unsafe"

/-- What can stand in front of `fn`. A function in a foreign block can be
called safe. -/
def qualifiers (allowSafe : Bool) : Phrase :=
  join [optionalWord "const", optionalWord "async", safety allowSafe, optionalConvention]

/-- Whether a signature is ahead. -/
def Ahead.signature (allowSafe : Bool) : Ahead :=
  fun ts => ((qualifiers allowSafe ts).map Prod.snd).any (word "fn")

/-- A signature. -/
structure Signature where
  tokens : List Token
  name : Ident
  parameters : List FunctionParameter
  /-- The type of the result, if it is a path. -/
  result : Option Path

/-- A signature. -/
def signature (g : Rules) (allowSafe : Bool) : Rule Signature := do
  let start ← join [qualifiers allowSafe, word "fn"]
  let i ← name
  let generics ← optionalGenerics g
  let (parameters, ts) ← inside .parenthesis (functionParameters g)
  let (arrow, type) ←
    if ← sees (Ahead.mark "->") then
      let arrow ← mark "->"
      pure (arrow, some (← g.type true))
    else pure ([], none)
  let result := match type with | some t => t.tokens | none => []
  let conditions ← optionalConditions g
  return {
    tokens :=
      start ++ [.ident i] ++ generics.tokens ++ Token.enclosed .parenthesis ts ++ arrow ++
        result ++ conditions
    name := i
    parameters := parameters
    result := type.bind TypeTree.path? }

/-- The function of an `impl` block with a signature. -/
def Signature.method (s : Signature) : Method where
  name := s.name
  hasReceiver := s.parameters.head?.any FunctionParameter.isReceiver
  arguments := s.parameters.filterMap FunctionParameter.argument?
  result := s.result

/-- The attributes and the statements of a function's body. -/
def functionBody (g : Rules) : Rule (List Attribute × List Token) :=
  inside .brace (do return (← innerAttributes g, ← g.statements))

end EnumCompanion.Grammar
