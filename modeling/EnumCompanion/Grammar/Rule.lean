import EnumCompanion.Grammar.Ahead

/-!
# `EnumCompanion.Grammar.Rule`: rules and how they are combined

A rule reads tokens from the front of a list. It fails, or gives what it
has read and the tokens that are left. Most rules are phrases: they give
the tokens of what they read in standard form, in which operators are
spaced alike however they were written and what means nothing is left
out.

`inside` is the one way into a group, and a group has to be read to its
end.
-/

set_option autoImplicit false

namespace EnumCompanion.Grammar

/-- A rule of the grammar. -/
abbrev Rule (α : Type) := StateT (List Token) Option α

/-- A rule that gives the tokens of what it reads in standard form. -/
abbrev Phrase := Rule (List Token)

namespace Rule

/-! ### Looking ahead -/

/-- The answer of a question about the tokens ahead. -/
def sees (p : Ahead) : Rule Bool :=
  fun ts => some (p ts, ts)

/-- Fails unless the answer is yes. -/
def expects (p : Ahead) : Rule Unit :=
  fun ts => if p ts then some ((), ts) else none

/-- The tokens read since `start` was ahead, as they were written. -/
def since (start : List Token) : Phrase :=
  fun ts => some (start.take (start.length - ts.length), ts)

/-! ### Single tokens -/

/-- Reads an operator. -/
def mark (m : String) : Phrase :=
  fun ts => if Ahead.mark m ts then some (Token.operator m, ts.drop m.length) else none

/-- Reads a word spelt in the given way. -/
def word (w : String) : Phrase
  | .ident i :: ts => if i.text == w then some ([.ident i], ts) else none
  | _ => none

/-- Reads a word, be it a name or a keyword. -/
def anyWord : Rule Ident
  | .ident i :: ts => some (i, ts)
  | _ => none

/-- Reads a name. -/
def name : Rule Ident
  | .ident i :: ts => if i.isName then some (i, ts) else none
  | _ => none

/-- Reads a name or an underscore. -/
def nameOrBlank : Rule Ident
  | .ident i :: ts => if i.isName || i.text == "_" then some (i, ts) else none
  | _ => none

/-- The token of an identifier. -/
def spelt (r : Rule Ident) : Phrase := do
  return [.ident (← r)]

/-- Reads a lifetime. -/
def lifetime : Phrase
  | .punct '\'' .joint :: .ident i :: ts => some ([.punct '\'' .joint, .ident i], ts)
  | _ => none

/-- Reads a literal; a minus sign in front of a number is set apart. -/
def literal : Phrase
  | .literal s :: ts => some ([.literal s], ts)
  | .ident i :: ts => if i.text == "true" || i.text == "false" then some ([.ident i], ts) else none
  | .punct '-' _ :: .literal s :: ts =>
    if Ahead.isNumber s then some ([.punct '-' .alone, .literal s], ts) else none
  | _ => none

/-- Reads a literal string and gives its spelling. -/
def string : Rule String
  | .literal s :: ts => if Ahead.isString s then some (s, ts) else none
  | _ => none

/-- Reads a group with any content, as it was written. -/
def anyGroup : Phrase
  | .group d ts :: rest => some ([.group d ts], rest)
  | _ => none

/-! ### Groups -/

/-- Reads a group with the given delimiter, and all of it, by a rule. -/
def inside {α : Type} (d : Delimiter) (r : Rule α) : Rule α
  | .group d' ts :: rest =>
    if d = d' then
      match r ts with
      | some (a, []) => some (a, rest)
      | _ => none
    else none
  | _ => none

/-- The group of what a phrase reads in it. -/
def enclosed (d : Delimiter) (r : Phrase) : Phrase := do
  return Token.enclosed d (← inside d r)

/-! ### Sequences -/

/-- Reads phrases one after the other. -/
def join : List Phrase → Phrase
  | [] => pure []
  | r :: rs => do return (← r) ++ (← join rs)

/-- Reads a phrase if the answer is yes, and nothing otherwise. -/
def whenever (p : Ahead) (r : Phrase) : Phrase := do
  if ← sees p then r else pure []

/-- Reads an operator if it is ahead. -/
def optionalMark (m : String) : Phrase :=
  whenever (Ahead.mark m) (mark m)

/-- Reads a word if it is ahead. -/
def optionalWord (w : String) : Phrase :=
  whenever (Ahead.word w) (word w)

/-- Reads a lifetime if one is ahead. -/
def optionalLifetime : Phrase :=
  whenever Ahead.lifetime lifetime

/-! ### Repetition -/

/-- Repeats a rule until the answer is yes, in at most the given number
of rounds. -/
def repeatWithin {α : Type} (stop : Ahead) (r : Rule α) : Nat → Rule (List α)
  | 0 => failure
  | n + 1 => do
    if ← sees stop then return []
    let a ← r
    return a :: (← repeatWithin stop r n)

/-- Repeats a rule until the answer is yes. A round reads a token at
least, so there are no more rounds than tokens. -/
def repeatUntil {α : Type} (stop : Ahead) (r : Rule α) : Rule (List α) := do
  repeatWithin stop r ((← get).length + 1)

/-- One entry of a list, with the separator after it if there is one. -/
structure Entry (α : Type) where
  value : α
  separator : List Token

/-- Reads entries until the answer is yes, in at most the given number of
rounds; two entries have a separator between them, and one may follow the
last. -/
def entriesWithin {α : Type} (stop : Ahead) (r : Rule α) (separator : Phrase) :
    Nat → Rule (List (Entry α))
  | 0 => failure
  | n + 1 => do
    if ← sees stop then return []
    let a ← r
    if ← sees stop then return [⟨a, []⟩]
    let s ← separator
    return ⟨a, s⟩ :: (← entriesWithin stop r separator n)

/-- Reads entries until the answer is yes. -/
def entriesUntil {α : Type} (stop : Ahead) (r : Rule α) (separator : Phrase) :
    Rule (List (Entry α)) := do
  entriesWithin stop r separator ((← get).length + 1)

/-- Reads entries as long as separators follow them, in at most the given
number of rounds; one separator may stand before the point where the
answer to `stop` is yes. -/
def chainWithin {α : Type} (stop : Ahead) (r : Rule α) (more : Ahead) (separator : Phrase) :
    Nat → Rule (List (Entry α))
  | 0 => failure
  | n + 1 => do
    if ← sees stop then return []
    let a ← r
    if ← sees more then
      let s ← separator
      return ⟨a, s⟩ :: (← chainWithin stop r more separator n)
    return [⟨a, []⟩]

/-- Reads entries as long as separators follow them. -/
def chainUntil {α : Type} (stop : Ahead) (r : Rule α) (more : Ahead) (separator : Phrase) :
    Rule (List (Entry α)) := do
  chainWithin stop r more separator ((← get).length + 1)

/-- The tokens of entries in order. -/
def flatten (entries : List (Entry (List Token))) : List Token :=
  entries.flatMap fun e => e.value ++ e.separator

/-- Reads phrases until the answer is yes. -/
def allUntil (stop : Ahead) (r : Phrase) : Phrase := do
  return (← repeatUntil stop r).flatten

/-- Reads phrases with commas between them to the end of a group; one
comma may follow the last. -/
def commaSeparated (r : Phrase) : Phrase := do
  return flatten (← entriesUntil Ahead.nothing r (mark ","))

/-! ### Whole texts -/

/-- What a rule gives for the tokens, if it reads all of them. -/
def whole? {α : Type} (r : Rule α) (ts : List Token) : Option α :=
  match r ts with
  | some (a, []) => some a
  | _ => none

end Rule

end EnumCompanion.Grammar
