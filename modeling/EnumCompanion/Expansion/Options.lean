import EnumCompanion.Companion.Text
import EnumCompanion.Expansion.Fault
import EnumCompanion.Grammar.Rule
import EnumCompanion.Text.Quoted

/-!
# `EnumCompanion.Expansion.Options`: the arguments of an expansion

Arguments are entries `key = "value"` with commas between them; a comma
may follow the last. Two keys exist, `namespace` and `runtime`, and of
two entries with one key the later counts. `Options.read` gives the
options, or the first fault.
-/

set_option autoImplicit false

namespace EnumCompanion

open Grammar

/-- What an expansion can be told. -/
structure Options where
  /-- The path of the module, if it is not to be taken from the item. -/
  scope : Option String
  /-- The path of the crate with the error of a failed lookup. -/
  runtime : Option String
  deriving DecidableEq, Repr

namespace Options

/-- No options. -/
def none : Options := ⟨.none, .none⟩

/-- How companions are written. -/
def style (o : Options) : Companion.Style :=
  match o.runtime with
  | some runtime => { runtime := runtime }
  | .none => {}

/-! ### Keys and values -/

/-- A key as it is written: names with `::` between them, keywords
included, and whether `::` stands in front. -/
structure Key where
  isGlobal : Bool
  names : List Ident
  deriving DecidableEq, Repr

/-- The key of one plain name. -/
def Key.plain (name : String) : Key := ⟨false, [.plain name]⟩

/-- Reads a key. -/
def key : Rule Key := do
  let start ← Rule.optionalMark "::"
  let names ←
    Rule.chainUntil (fun _ => false) Rule.anyWord (Ahead.mark "::") (Rule.mark "::")
  return ⟨!start.isEmpty, names.map Rule.Entry.value⟩

/-- Reads an equals sign and a literal string, and gives the text of the
string. -/
def value : Rule String := do
  let _ ← Rule.mark "="
  match Text.stringValue? (← Rule.string) with
  | some text => return text
  | .none => failure

/-! ### Entries -/

/-- Runs a rule; where it fails, the tokens do not follow the grammar. -/
def grammatical {α : Type} (r : Rule α) (ts : List Token) : Except Fault (α × List Token) :=
  match r ts with
  | some found => .ok found
  | .none => .error .ungrammatical

/-- The options after an entry with the given key, and what follows it. -/
def entry (o : Options) (k : Key) (ts : List Token) : Except Fault (Options × List Token) :=
  if k = .plain "namespace" then do
    let (text, rest) ← grammatical value ts
    if Text.isBlank text then .error .blankScope else .ok ({ o with scope := some text }, rest)
  else if k = .plain "runtime" then do
    let (text, rest) ← grammatical value ts
    .ok ({ o with runtime := some text }, rest)
  else .error .unknownKey

/-- The options after entries, in at most the given number of entries. -/
def entriesWithin : Nat → Options → List Token → Except Fault Options
  | 0, _, _ => .error .ungrammatical
  | n + 1, o, ts => do
    let (k, rest) ← grammatical key ts
    let (o, rest) ← entry o k rest
    match rest with
    | [] => .ok o
    | [.punct ',' _] => .ok o
    | .punct ',' _ :: more => entriesWithin n o more
    | _ => .error .ungrammatical

/-- The options that the arguments give. -/
def read (ts : List Token) : Except Fault Options :=
  if ts.isEmpty then .ok none else entriesWithin ts.length none ts

end Options

end EnumCompanion
