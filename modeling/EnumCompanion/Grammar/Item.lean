import EnumCompanion.Grammar.Function

/-!
# `EnumCompanion.Grammar.Item`: items

The kind of an item is told by the words in front of it, behind its
attributes and its visibility. Some items are read but have no form, for
instance a constant without a value: they are kept as written.
-/

set_option autoImplicit false

namespace EnumCompanion.Grammar

open Rule

/-! ### Types, with bounds or a definition -/

/-- A type that is named, bounded or defined by an item. -/
structure TypeItem where
  head : List Token
  name : Ident
  /-- Whether a colon is there. -/
  isBounded : Bool
  bounds : List Token
  conditions : List Token
  definition : List Token
  tail : List Token

/-- What can end the bounds of a type that an item names. -/
def Ahead.endsTypeBounds : Ahead :=
  anyOf [word "where", marksOf ["=", ";"]]

/-- Bounds with `+` between them, all the way to the point where the answer
to `stop` is yes. -/
def boundsTo (g : Rules) (stop : Ahead) : Phrase := do
  return boundTokens (← entriesUntil stop (g.bound false true) (mark "+"))

/-- A type that an item names, from the word `type` on; conditions stand
before the definition, behind it, or in one of both places. -/
def typeItem (g : Rules) (before after : Bool) : Rule TypeItem := do
  let start ← word "type"
  let i ← name
  let generics ← optionalGenerics g
  let isBounded ← sees (Ahead.mark ":")
  let bounds ←
    if isBounded then
      let _ ← mark ":"
      boundsTo g Ahead.endsTypeBounds
    else pure []
  let hasBefore ← sees fun ts => before && Ahead.word "where" ts
  let early ← if before then optionalConditions g else pure []
  let definition ← whenever (Ahead.mark "=") (join [mark "=", typePhrase g true])
  let late ← if after && !hasBefore then optionalConditions g else pure []
  let tail ← mark ";"
  return {
    head := start ++ .ident i :: generics.tokens
    name := i
    isBounded := isBounded
    bounds := bounds
    conditions := early ++ late
    definition := definition
    tail := tail }

/-! ### Members of `impl` blocks, traits and foreign blocks -/

/-- What can start a macro among items. -/
def Ahead.macroPath : Ahead :=
  anyOf [name, words ["self", "super", "crate"], mark "::"]

/-- A macro among the members of a block. Arguments that are not in braces
have a semicolon behind them. -/
def memberMacro : Phrase := do
  let head ← join [do return (← plainPath).tokens, mark "!"]
  let isBraced ← sees (Ahead.group .brace)
  let arguments ← anyGroup
  return head ++ arguments ++ (← if isBraced then pure [] else mark ";")

/-- The word `default` in front of a member, unless it is the name of a
macro. -/
def Ahead.defaultWord : Ahead :=
  (word "default").but (second (mark "!"))

/-- A constant of a block: its tokens, and whether it has a form. Generic
parameters and conditions have none, and nor has the lack of a value
where one is required. -/
def memberConstant (g : Rules) (needsValue : Bool) : Rule (List Token × Bool) := do
  let head ← join [word "const", spelt nameOrBlank]
  let generics ← optionalGenerics g
  let type ← join [mark ":", typePhrase g true]
  let value ← whenever (Ahead.mark "=") (join [mark "=", exprPhrase g])
  let hasConditions ← sees (Ahead.word "where")
  let _ ← optionalConditions g
  let tail ← mark ";"
  let hasForm := !generics.isWritten && !hasConditions && !(needsValue && value.isEmpty)
  return (head ++ type ++ value ++ tail, hasForm)

/-- The tokens of a member that was read as `ts`, or as it was written if
it has no form. -/
def formed (start : List Token) (hasForm : Bool) (ts : List Token) : Phrase :=
  if hasForm then pure ts else since start

/-- A function of an `impl` block, if it has a body, and its tokens. -/
def implFunction (g : Rules) (start attributes head : List Token) :
    Rule (Option Method × List Token) := do
  let s ← signature g false
  if ← sees (Ahead.mark ";") then
    let _ ← mark ";"
    return (none, ← since start)
  let (inner, body) ← functionBody g
  let block := Token.enclosed .brace (Attribute.tokensOf inner ++ body)
  return (some s.method, attributes ++ head ++ s.tokens ++ block)

/-- A member of an `impl` block: the function that it is, if it is one, and
its tokens. -/
def implMember (g : Rules) : Rule (Option Method × List Token) := do
  let start ← get
  let attributes ← outer g
  let visible ← visibility
  let default ← whenever Ahead.defaultWord (word "default")
  let head := visible ++ default
  if ← sees (Ahead.signature false) then implFunction g start attributes head
  else if ← sees (Ahead.word "const") then
    let (ts, hasForm) ← memberConstant g true
    return (none, ← formed start hasForm (attributes ++ head ++ ts))
  else if ← sees (Ahead.word "type") then
    let t ← typeItem g false true
    let hasForm := !t.isBounded && !t.definition.isEmpty
    return (none, ← formed start hasForm
      (attributes ++ head ++ t.head ++ t.definition ++ t.conditions ++ t.tail))
  else
    expects (fun ts => head.isEmpty && Ahead.macroPath ts)
    return (none, attributes ++ (← memberMacro))

/-- A function of a trait. -/
def traitFunction (g : Rules) : Phrase := do
  let s ← signature g false
  if ← sees (Ahead.mark ";") then return s.tokens ++ (← mark ";")
  let (inner, body) ← functionBody g
  return s.tokens ++ Token.enclosed .brace (Attribute.tokensOf inner ++ body)

/-- A member of a trait. One that says how far it can be seen, or that it
is a default, is kept as written. -/
def traitMember (g : Rules) : Phrase := do
  let start ← get
  let attributes ← outer g
  let visible ← visibility
  let default ← optionalWord "default"
  let isBare := visible.isEmpty && default.isEmpty
  if ← sees (Ahead.signature false) then formed start isBare (attributes ++ (← traitFunction g))
  else if ← sees (Ahead.word "const") then
    let (ts, hasForm) ← memberConstant g false
    formed start (hasForm && isBare) (attributes ++ ts)
  else if ← sees (Ahead.word "type") then
    let t ← typeItem g false true
    formed start isBare
      (attributes ++ t.head ++ colonUnlessEmpty t.bounds ++ t.definition ++ t.conditions ++ t.tail)
  else
    expects (fun ts => isBare && Ahead.macroPath ts)
    return attributes ++ (← memberMacro)

/-- A function of a foreign block. One that is said to be safe, or has a
body, is kept as written. -/
def foreignFunction (g : Rules) (start head : List Token) : Phrase := do
  let isSafe ← sees fun ts =>
    ((join [optionalWord "const", optionalWord "async"] ts).map Prod.snd).any (Ahead.word "safe")
  let s ← signature g true
  if ← sees (Ahead.group .brace) then
    let _ ← functionBody g
    since start
  else
    let tail ← mark ";"
    formed start (!isSafe) (head ++ s.tokens ++ tail)

/-- What starts a static of a foreign block. -/
def Ahead.foreignStatic : Ahead :=
  anyOf [word "static", (words ["unsafe", "safe"]).both (second (word "static"))]

/-- A static of a foreign block. One that is said to be safe or unsafe, or
has a value, is kept as written. -/
def foreignStatic (g : Rules) (start head : List Token) : Phrase := do
  let safety ← safety true
  let ts ← join [word "static", optionalWord "mut", spelt name, mark ":", typePhrase g true]
  let value ← whenever (Ahead.mark "=") (join [mark "=", exprPhrase g])
  let tail ← mark ";"
  formed start (safety.isEmpty && value.isEmpty) (head ++ ts ++ tail)

/-- A member of a foreign block. -/
def foreignMember (g : Rules) : Phrase := do
  let start ← get
  let attributes ← outer g
  let visible ← visibility
  let head := attributes ++ visible
  if ← sees (Ahead.signature true) then foreignFunction g start head
  else if ← sees Ahead.foreignStatic then foreignStatic g start head
  else if ← sees (Ahead.word "type") then
    let t ← typeItem g true true
    formed start (!t.isBounded && t.definition.isEmpty) (head ++ t.head ++ t.conditions ++ t.tail)
  else
    expects (fun ts => visible.isEmpty && Ahead.macroPath ts)
    return attributes ++ (← memberMacro)

/-! ### Fields and variants -/

/-- Named fields in braces. A field named by an underscore may be a struct
or a union without a name. -/
def namedFieldsWithin (g : Rules) : Nat → Phrase
  | 0 => failure
  | n + 1 =>
    let isNameless : Ahead := fun ts =>
      Ahead.word "struct" ts || (Ahead.word "union" ts && Ahead.second (Ahead.group .brace) ts)
    let field : Phrase := do
      let head ← join [outer g, visibility]
      let isBlank ← sees (Ahead.word "_")
      let label ← join [spelt nameOrBlank, mark ":"]
      if isBlank && (← sees isNameless) then
        let start ← get
        let _ ← anyWord
        let _ ← namedFieldsWithin g n
        return head ++ label ++ (← since start)
      return head ++ label ++ (← typePhrase g true)
    enclosed .brace (commaSeparated field)

/-- Named fields in braces. -/
def namedFields (g : Rules) : Phrase := do
  namedFieldsWithin g (Token.sizeAll (← get) + 1)

/-- Fields in parentheses. -/
def positionalFields (g : Rules) : Phrase :=
  enclosed .parenthesis (commaSeparated (join [outer g, visibility, typePhrase g true]))

/-- A variant of an enum, and its tokens. How far it can be seen is left
out. -/
def variant (g : Rules) : Rule (Variant × List Token) := do
  let attributes ← outer g
  let _ ← visibility
  let i ← name
  let fields ←
    if ← sees (Ahead.group .brace) then namedFields g
    else whenever (Ahead.group .parenthesis) (positionalFields g)
  let value ← whenever (Ahead.mark "=") (join [mark "=", exprPhrase g])
  return (⟨i, fields.isEmpty⟩, attributes ++ .ident i :: fields ++ value)

/-! ### Kinds of items -/

/-- An item that needs no body of its own. -/
def leaf (attributes : List Attribute) (form : Form) (head : List Token) : Item :=
  .leaf attributes form head none

/-- A function. One without a body is kept as written. -/
def functionItem (g : Rules) (start : List Token) (attributes : List Attribute)
    (visible : List Token) : Rule Item := do
  let s ← signature g false
  if ← sees (Ahead.mark ";") then
    let _ ← mark ";"
    return .verbatim (← since start)
  let (inner, body) ← functionBody g
  return .leaf (attributes ++ inner) (.plain .fn (some s.name)) (visible ++ s.tokens) (some body)

/-- The name of a linked crate, and the name it gets. -/
def linkedCrate : Phrase := do
  let i ← if ← sees (Ahead.word "self") then anyWord else name
  let rename ← whenever (Ahead.word "as") (join [word "as", spelt nameOrBlank])
  return .ident i :: rename

/-- A foreign block. -/
def foreignBlock (g : Rules) (attributes : List Attribute) : Rule Item := do
  let head ← join [optionalWord "unsafe", convention]
  let (inner, body) ← inside .brace (do
    return (← innerAttributes g, ← allUntil Ahead.nothing (foreignMember g)))
  return .leaf (attributes ++ inner) (.plain .other none) head (some body)

/-- Imports. -/
def importItem (g : Rules) (start : List Token) (attributes : List Attribute)
    (visible : List Token) : Rule Item := do
  let head ← join [word "use", optionalMark "::"]
  let isGlobal := head.length > 1
  let tree ← g.imports (!isGlobal)
  let tail ← mark ";"
  match tree with
  | some ts => return leaf attributes (.plain .other none) (visible ++ head ++ ts ++ tail)
  | none => return .verbatim (← since start)

/-- A static. One without a type or without a value is kept as written. -/
def staticItem (g : Rules) (start : List Token) (attributes : List Attribute)
    (visible : List Token) : Rule Item := do
  let head ← join [word "static", optionalWord "mut"]
  let i ← name
  if ← sees (Ahead.mark "=") then
    let _ ← join [mark "=", exprPhrase g, mark ";"]
    return .verbatim (← since start)
  let type ← join [mark ":", typePhrase g true]
  if ← sees (Ahead.mark ";") then
    let _ ← mark ";"
    return .verbatim (← since start)
  let value ← join [mark "=", exprPhrase g, mark ";"]
  return leaf attributes (.plain .other (some i)) (visible ++ head ++ .ident i :: type ++ value)

/-- A constant. One without a form is kept as written. -/
def constantItem (g : Rules) (start : List Token) (attributes : List Attribute)
    (visible : List Token) : Rule Item := do
  let i? : Option Ident := match (← get) with
    | _ :: .ident i :: _ => some i
    | _ => none
  let (ts, hasForm) ← memberConstant g true
  if hasForm then return leaf attributes (.plain .other i?) (visible ++ ts)
  return .verbatim (← since start)

/-- The members of a trait, and the attributes in front of them. -/
def traitBody (g : Rules) : Rule (List Attribute × List Token) :=
  inside .brace (do return (← innerAttributes g, ← allUntil Ahead.nothing (traitMember g)))

/-- A trait behind its name and generic parameters. -/
def restOfTrait (g : Rules) (attributes : List Attribute) (i : Ident) (head : List Token) :
    Rule Item := do
  let bounds ←
    if ← sees (Ahead.mark ":") then
      let _ ← mark ":"
      boundsTo g (Ahead.anyOf [Ahead.word "where", Ahead.group .brace])
    else pure []
  let conditions ← optionalConditions g
  let (inner, body) ← traitBody g
  return .leaf (attributes ++ inner) (.plain .trait (some i))
    (head ++ colonUnlessEmpty bounds ++ conditions) (some body)

/-- A trait, or a name for a sum of bounds. -/
def traitItem (g : Rules) (attributes : List Attribute) (visible : List Token) : Rule Item := do
  let start ← join [optionalWord "unsafe", optionalWord "auto", word "trait"]
  let i ← name
  let generics ← optionalGenerics g
  let head := visible ++ start ++ .ident i :: generics.tokens
  if start.length = 1 && (← sees (Ahead.mark "=")) then
    let eq ← mark "="
    let stop := Ahead.anyOf [Ahead.word "where", Ahead.mark ";"]
    let entries ← entriesUntil stop (g.bound false false) (mark "+")
    let tail ← join [optionalConditions g, mark ";"]
    return leaf attributes (.plain .other (some i)) (head ++ eq ++ boundTokens entries ++ tail)
  restOfTrait g attributes i head

/-- A module. -/
def moduleItem (g : Rules) (attributes : List Attribute) (visible : List Token) : Rule Item := do
  let start ← join [optionalWord "unsafe", word "mod"]
  let i ← if ← sees (Ahead.word "try") then anyWord else name
  let head := visible ++ start ++ [.ident i]
  if ← sees (Ahead.mark ";") then
    return leaf attributes (.moduleFile i) (head ++ (← mark ";"))
  let (inner, items) ← inside .brace (do
    return (← innerAttributes g, ← repeatUntil Ahead.nothing g.item))
  return .inlineModule (attributes ++ inner) i head items

/-- A type alias. One with bounds or without a definition is kept as
written. -/
def typeAlias (g : Rules) (start : List Token) (attributes : List Attribute)
    (visible : List Token) : Rule Item := do
  let t ← typeItem g true false
  if t.isBounded || t.definition.isEmpty then return .verbatim (← since start)
  return leaf attributes (.plain .typeAlias (some t.name))
    (visible ++ t.head ++ t.conditions ++ t.definition ++ t.tail)

/-- A struct. -/
def structItem (g : Rules) (attributes : List Attribute) (visible : List Token) : Rule Item := do
  let start ← word "struct"
  let i ← name
  let generics ← optionalGenerics g
  let isConditioned ← sees (Ahead.word "where")
  let conditions ← optionalConditions g
  let fields ←
    if ← sees (Ahead.group .brace) then join [pure conditions, namedFields g]
    else if !isConditioned && (← sees (Ahead.group .parenthesis)) then
      join [positionalFields g, optionalConditions g, mark ";"]
    else join [pure conditions, mark ";"]
  return leaf attributes (.plain .struct (some i))
    (visible ++ start ++ .ident i :: generics.tokens ++ fields)

/-- A union. -/
def unionItem (g : Rules) (attributes : List Attribute) (visible : List Token) : Rule Item := do
  let start ← word "union"
  let i ← name
  let generics ← optionalGenerics g
  let rest ← join [optionalConditions g, namedFields g]
  return leaf attributes (.plain .union (some i))
    (visible ++ start ++ .ident i :: generics.tokens ++ rest)

/-- An enum. -/
def enumItem (g : Rules) (attributes : List Attribute) (visible : List Token) : Rule Item := do
  let start ← word "enum"
  let i ← name
  let generics ← optionalGenerics g
  let conditions ← optionalConditions g
  let entries ← inside .brace (entriesUntil Ahead.nothing (variant g) (mark ","))
  let variants := entries.flatMap fun e => e.value.2 ++ e.separator
  return leaf attributes (.enumeration i generics.isGeneric (entries.map (·.value.1)))
    (visible ++ start ++ .ident i :: generics.tokens ++ conditions ++
      Token.enclosed .brace variants)

/-- The mark of an `impl` block for constants. -/
def constantImpl : Phrase := do
  if ← sees fun ts =>
      Ahead.word "const" ts || (Ahead.mark "?" ts && Ahead.second (Ahead.word "const") ts)
  then join [optionalMark "?", word "const"]
  else pure []

/-- An `impl` block. One that says how far it can be seen, that is for
constants, or that implements what is no path is kept as written. -/
def implItem (g : Rules) (start : List Token) (attributes : List Attribute)
    (visible : List Token) : Rule Item := do
  let head ← join [optionalWord "default", optionalWord "unsafe", word "impl"]
  let generics ← if ← sees Ahead.generics then optionalGenerics g else pure ⟨[], false, false⟩
  let constant ← constantImpl
  let negation ←
    whenever ((Ahead.mark "!").but (Ahead.second (Ahead.group .brace))) (mark "!")
  let first ← g.type true
  let isFor ← sees (Ahead.word "for")
  if !isFor && !negation.isEmpty then failure
  let for_ ← optionalWord "for"
  let self ← if isFor then g.type true else pure first
  let conditions ← optionalConditions g
  let (inner, members) ← inside .brace (do
    return (← innerAttributes g, ← repeatUntil Ahead.nothing (implMember g)))
  if !visible.isEmpty || !constant.isEmpty || (isFor && first.path?.isNone) then
    return .verbatim (← since start)
  let block : Implementation := {
    isInherent := !isFor
    self := self.path?
    methods := members.filterMap Prod.fst }
  let target := if isFor then negation ++ first.tokens ++ for_ ++ self.tokens else first.tokens
  return .leaf (attributes ++ inner) (.implementation block)
    (head ++ generics.tokens ++ target ++ conditions) (some (members.flatMap Prod.snd))

/-- A macro definition of the second kind, kept as written. -/
def macroDefinition (start : List Token) : Rule Item := do
  let _ ← join [word "macro", spelt name, whenever (Ahead.group .parenthesis) anyGroup]
  expects (Ahead.group .brace)
  let _ ← anyGroup
  return .verbatim (← since start)

/-- A macro as an item; it may have a name behind its mark. -/
def macroItem (attributes : List Attribute) : Rule Item := do
  let head ← join [do return (← plainPath).tokens, mark "!",
    whenever (Ahead.anyOf [Ahead.name, Ahead.word "try"]) (spelt anyWord)]
  let isBraced ← sees (Ahead.group .brace)
  let arguments ← anyGroup
  let tail ← if isBraced then pure [] else mark ";"
  return leaf attributes (.plain .other none) (head ++ arguments ++ tail)

/-! ### Imports -/

/-- The trees in braces of an import, in at most the given number of
rounds; whether one starts with `::`, and their tokens. -/
def importGroupWithin (g : Rules) (allowGlobal : Bool) : Nat → Rule (Bool × List Token)
  | 0 => failure
  | n + 1 => do
    if ← sees Ahead.nothing then return (false, [])
    let isGlobal ← sees fun ts => allowGlobal && Ahead.mark "::" ts
    let _ ← if isGlobal then mark "::" else pure []
    let tree ← g.imports (allowGlobal && !isGlobal)
    let comma ← whenever (Ahead.no Ahead.nothing) (mark ",")
    let (more, rest) ← importGroupWithin g allowGlobal n
    return (isGlobal || tree.isNone || more, tree.getD [] ++ comma ++ rest)

/-- The name that an import gets. -/
def rename : Phrase :=
  join [word "as", spelt nameOrBlank]

/-- A tree of imports. -/
def imports (g : Rules) (allowGlobal : Bool) : Rule (Option (List Token)) := do
  if ← sees (Ahead.anyOf [Ahead.name, Ahead.words ["self", "super", "crate", "try"]]) then
    let i ← spelt anyWord
    if ← sees (Ahead.mark "::") then
      let colons ← mark "::"
      return (← g.imports false).map fun tree => i ++ colons ++ tree
    return some (i ++ (← whenever (Ahead.word "as") rename))
  else if ← sees (Ahead.mark "*") then return some (← mark "*")
  else
    let (isGlobal, trees) ← inside .brace (do
      importGroupWithin g allowGlobal ((← get).length + 1))
    return if isGlobal then none else some (Token.enclosed .brace trees)

/-! ### Items -/

/-- What starts an unsafe trait. -/
def Ahead.unsafeTrait : Ahead :=
  (word "unsafe").both (anyOf
    [second (word "trait"), both (second (word "auto")) (third (word "trait"))])

/-- What starts a foreign block. -/
def Ahead.foreignBlock : Ahead :=
  (word "extern").both (anyOf
    [second (group .brace), both (second string) (third (group .brace))])

/-- What starts an `impl` block. -/
def Ahead.implItem : Ahead :=
  anyOf [word "impl", defaultWord, (word "unsafe").both (second (word "impl"))]

/-- The rest of an item behind its attributes and its visibility. -/
def itemBody (g : Rules) (start : List Token) (attributes : List Attribute)
    (visible : List Token) : Rule Item := do
  if ← sees (Ahead.signature false) then functionItem g start attributes visible
  else if ← sees ((Ahead.word "extern").both (Ahead.second (Ahead.word "crate"))) then
    return leaf attributes (.plain .other none)
      (visible ++ (← join [word "extern", word "crate", linkedCrate, mark ";"]))
  else if ← sees (Ahead.anyOf [Ahead.foreignBlock,
      (Ahead.word "unsafe").both (Ahead.second (Ahead.word "extern"))]) then
    if visible.isEmpty then foreignBlock g attributes else failure
  else if ← sees (Ahead.word "use") then importItem g start attributes visible
  else if ← sees (Ahead.word "static") then staticItem g start attributes visible
  else if ← sees (Ahead.word "const") then constantItem g start attributes visible
  else if ← sees (Ahead.anyOf [Ahead.unsafeTrait, Ahead.word "trait",
      (Ahead.word "auto").both (Ahead.second (Ahead.word "trait"))]) then
    traitItem g attributes visible
  else if ← sees (Ahead.anyOf [Ahead.word "mod",
      (Ahead.word "unsafe").both (Ahead.second (Ahead.word "mod"))]) then
    moduleItem g attributes visible
  else if ← sees (Ahead.word "type") then typeAlias g start attributes visible
  else if ← sees (Ahead.word "struct") then structItem g attributes visible
  else if ← sees (Ahead.word "enum") then enumItem g attributes visible
  else if ← sees ((Ahead.word "union").both (Ahead.second Ahead.name)) then
    unionItem g attributes visible
  else if ← sees Ahead.implItem then implItem g start attributes visible
  else if ← sees (Ahead.word "macro") then macroDefinition start
  else
    expects (fun ts => visible.isEmpty && Ahead.macroPath ts)
    macroItem attributes

/-- An item. -/
def item (g : Rules) : Rule Item := do
  let start ← get
  let attributes ← outerAttributes g
  let visible ← visibility
  itemBody g start attributes visible

end EnumCompanion.Grammar
