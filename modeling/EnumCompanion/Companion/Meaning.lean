import EnumCompanion.Companion.Code

/-!
# `EnumCompanion.Companion.Meaning`: what the code of a companion does

A reading of the code that `Companion.Code` writes, with the scoping of
the language it is written in. Names are read as the identifiers that they
are written as, so two names may be one (`Name.identifier`):

* a parameter, a loop and a closure each bind an identifier, and an
  identifier stands for what bound it last;
* `Self::f()` is the one member `f` of the companion, a function without a
  parameter;
* a word that is a keyword binds nothing, nor does the underscore.

A `Setting` says what the code is about: the name of the enum, what its
accessors return, when two values are equal, and the function that
`associate` is given, which may keep a state of its own and return
something else every time. Nothing is assumed of any of them.

Code without a meaning has no value here: an identifier that nothing
binds, a call of a member when there are two of its name, a comparison of
something that is no value of an accessor, a path that starts from
another name than that of the enum.
-/

set_option autoImplicit false

namespace EnumCompanion.Companion

open EnumCompanion.Text (canonical)

variable {α σ ρ : Type}

/-! ### Values -/

/-- What the code of a companion is about: values of accessors in `α`, and
a function to results in `ρ` that keeps a state in `σ`. -/
structure Setting (α σ ρ : Type) where
  /-- The name of the enum. -/
  enumName : String
  /-- What an accessor returns for a variant. -/
  get : (accessor variant : String) → α
  /-- Whether two values of accessors are equal. -/
  equals : α → α → Bool
  /-- What the function that `associate` is given returns for a variant. -/
  transform : (variant : String) → σ → ρ × σ

/-- A value of a companion's functions. A variant is known by its name. -/
inductive Value (α ρ : Type) where
  | variant (name : String)
  /-- What an accessor returns. -/
  | data (a : α)
  | truth (b : Bool)
  | array (names : List String)
  | list (names : List String)
  /-- The answer of a lookup that finds a variant. -/
  | found (name : String)
  /-- The answer of a lookup that finds none: the error at the path. -/
  | missing (path : String)
  /-- The function that `associate` is given. -/
  | transform
  /-- What that function returns. -/
  | outcome (r : ρ)
  | pair (name : String) (r : ρ)
  /-- The pairs that go into a map, in order. -/
  | map (pairs : List (String × ρ))

/-! ### Words -/

/-- Whether a word, as it is written, can be bound. A raw spelling, with the
mark in it, is no keyword. -/
def isBindable (w : String) : Bool :=
  !(isKeyword (canonical w) || isPathKeyword (canonical w)) && canonical w != "_"

/-- The identifiers that are bound, the last one first, each with its value. -/
abbrev Scope (α ρ : Type) := List (String × Value α ρ)

/-- What the companion's functions without a parameter return, and the state
after the call. -/
abbrev Calls (σ : Type) := String → σ → Option (List String × σ)

/-! ### Expressions -/

/-- The value of an expression, and the state after it. -/
def Expr.eval (t : Setting α σ ρ) (calls : Calls σ) (locals : Scope α ρ) :
    Expr → σ → Option (Value α ρ × σ)
  | .name x, q => (locals.lookup (Name.identifier x)).map (·, q)
  | .table f, q => (calls f q).map fun (names, q) => (.array names, q)
  | .access x accessor, q =>
    match locals.lookup (Name.identifier x) with
    | some (.variant v) => some (.data (t.get accessor v), q)
    | _ => none
  | .equal l r, q =>
    match l.eval t calls locals q with
    | some (.data a, q) =>
      match r.eval t calls locals q with
      | some (.data b, q) => some (.truth (t.equals a b), q)
      | _ => none
    | _ => none
  | .found e, q =>
    match e.eval t calls locals q with
    | some (.variant v, q) => some (.found v, q)
    | _ => none
  | .missing runtime, q => some (.missing (missingPath runtime), q)
  | .listOf e, q =>
    match e.eval t calls locals q with
    | some (.array names, q) => some (.list names, q)
    | _ => none
  | .variants enumName names, q =>
    if isBindable enumName && Name.ofSpelling enumName == Name.identifier t.enumName &&
        names.all (fun n => !isPathKeyword (canonical n)) then
      some (.array names, q)
    else none
  | .applied f x, q =>
    match locals.lookup (Name.ofSpelling f), locals.lookup (Name.identifier x) with
    | some .transform, some (.variant v) =>
      let (r, q) := t.transform v q
      some (.outcome r, q)
    | _, _ => none
  | .pair x y, q =>
    match locals.lookup (Name.identifier x), locals.lookup (Name.identifier y) with
    | some (.variant v), some (.outcome r) => some (.pair v r, q)
    | _, _ => none

/-! ### Statements -/

/-- How a statement ends. -/
inductive Flow (α ρ : Type) where
  /-- The next statement follows, with these identifiers bound. -/
  | goesOn (locals : Scope α ρ)
  /-- It is the value of its block. -/
  | gives (v : Value α ρ)
  /-- The function ends. -/
  | returns (v : Value α ρ)

/-- The identifiers bound with one more. -/
def Scope.bind (locals : Scope α ρ) (x : String) (v : Value α ρ) : Option (Scope α ρ) :=
  if isBindable (Name.spelling x) then some ((Name.identifier x, v) :: locals) else none

/-- Runs the body of a loop for each variant, until one ends the function:
with its value, if one does. -/
def eachVariant (body : String → σ → Option (Flow α ρ × σ)) :
    List String → σ → Option (Option (Value α ρ) × σ)
  | [], q => some (none, q)
  | v :: rest, q =>
    match body v q with
    | some (.goesOn _, q) => eachVariant body rest q
    | some (.returns r, q) => some (some r, q)
    | _ => none

/-- The pairs that the body of a closure gives for each variant. -/
def pairUp (body : String → σ → Option (Flow α ρ × σ)) :
    List String → σ → Option (List (String × ρ) × σ)
  | [], q => some ([], q)
  | v :: rest, q =>
    match body v q with
    | some (.gives (.pair n r), q) => (pairUp body rest q).map fun (es, q) => ((n, r) :: es, q)
    | _ => none

mutual

/-- Runs a statement. -/
def Stmt.exec (t : Setting α σ ρ) (calls : Calls σ) :
    Stmt → Scope α ρ → σ → Option (Flow α ρ × σ)
  | .forEach x items body, locals, q =>
    match items.eval t calls locals q with
    | some (.array names, q) =>
      match eachVariant
        (fun v q => (locals.bind x (.variant v)).bind fun inner => execAll t calls body inner q)
        names q with
      | some (none, q) => some (.goesOn locals, q)
      | some (some r, q) => some (.returns r, q)
      | none => none
    | _ => none
  | .ifThen condition body, locals, q =>
    match condition.eval t calls locals q with
    | some (.truth true, q) =>
      match execAll t calls body locals q with
      | some (.goesOn _, q) => some (.goesOn locals, q)
      | some (.returns r, q) => some (.returns r, q)
      | _ => none
    | some (.truth false, q) => some (.goesOn locals, q)
    | _ => none
  | .giveBack e, locals, q => (e.eval t calls locals q).map fun (v, q) => (.returns v, q)
  | .bind x e, locals, q =>
    (e.eval t calls locals q).bind fun (v, q) =>
      (locals.bind x v).map fun inner => (.goesOn inner, q)
  | .result e, locals, q => (e.eval t calls locals q).map fun (v, q) => (.gives v, q)
  | .collect items x body, locals, q =>
    match items.eval t calls locals q with
    | some (.array names, q) =>
      (pairUp
        (fun v q => (locals.bind x (.variant v)).bind fun inner => execAll t calls body inner q)
        names q).map fun (pairs, q) => (.gives (.map pairs), q)
    | _ => none

/-- Runs the statements of a block. One that is the value of the block is
the last. -/
def execAll (t : Setting α σ ρ) (calls : Calls σ) :
    List Stmt → Scope α ρ → σ → Option (Flow α ρ × σ)
  | [], locals, q => some (.goesOn locals, q)
  | s :: rest, locals, q =>
    match s.exec t calls locals q with
    | some (.goesOn inner, q) => execAll t calls rest inner q
    | some (.gives v, q) => if rest.isEmpty then some (.gives v, q) else none
    | some (.returns v, q) => some (.returns v, q)
    | none => none

end

/-! ### Functions -/

namespace Function

/-- The identifiers that a call of the function binds. -/
def scope (f : Function) (argument : Option (Value α ρ)) : Option (Scope α ρ) :=
  match f.binder, argument with
  | none, none => some []
  | some b, some v => Scope.bind [] b.name v
  | _, _ => none

/-- The value of a call, and the state after it. -/
def call (t : Setting α σ ρ) (calls : Calls σ) (f : Function) (argument : Option (Value α ρ))
    (q : σ) : Option (Value α ρ × σ) :=
  (f.scope argument).bind fun locals =>
    match execAll t calls f.body locals q with
    | some (.gives v, q) => some (v, q)
    | some (.returns v, q) => some (v, q)
    | _ => none

/-- Whether `Self::name()` can mean the function. -/
def isPlain (f : Function) : Bool :=
  f.binder.isNone && f.generic.isNone

end Function

namespace Code

/-- The function that `Self::name()` means: the only member of that name, if
it takes no parameter. -/
def resolve (c : Code) (name : String) : Option Function :=
  if (c.constants.map Name.identifier).contains (Name.ofSpelling name) then none
  else
    match c.functions.filter (Name.ofSpelling ·.name == Name.ofSpelling name) with
    | [f] => if f.isPlain then some f else none
    | _ => none

/-- What `Self::name()` returns, where calls nest at most the given number
deep. -/
def calls (c : Code) (t : Setting α σ ρ) : Nat → Calls σ
  | 0, _, _ => none
  | depth + 1, name, q =>
    (c.resolve name).bind fun f =>
      match f.call t (c.calls t depth) none q with
      | some (.array names, q) => some (names, q)
      | _ => none

/-- The value of a call of one of the companion's functions, and the state
after it. Calls nest at most as deep as there are functions. -/
def run (c : Code) (t : Setting α σ ρ) (f : Function) (argument : Option (Value α ρ)) (q : σ) :
    Option (Value α ρ × σ) :=
  f.call t (c.calls t c.functions.length) argument q

end Code

end EnumCompanion.Companion
