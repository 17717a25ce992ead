import EnumCompanion.Name
import EnumCompanion.Page
import EnumCompanion.Text.Quoted

/-!
# `EnumCompanion.Companion.Code`: the code of a companion

The functions of a companion are written in a small fragment of the
language: loops, tests, local names and a handful of expressions. This
module holds that fragment and writes it on a page. Names are kept as
names; a keyword is spelt raw only when it is written down.

`Code.text` writes a whole companion: the comment with the module path,
the struct, and the block of its members, with a blank line between two
members of which one is a function.
-/

set_option autoImplicit false

namespace EnumCompanion.Companion

/-! ### Expressions and statements -/

/-- The path of the result type. -/
def resultPath : String := "::core::result::Result"

/-- The error of a lookup that finds nothing, in the crate with the given
path. -/
def missingPath (runtime : String) : String :=
  runtime ++ "::NoConstantFound"

/-- An expression of a companion's functions. -/
inductive Expr where
  /-- The value of a local name. -/
  | name (x : String)
  /-- The array that the companion's own function of that name returns. -/
  | table (function : String)
  /-- What an accessor of a local value returns. -/
  | access (x accessor : String)
  /-- Whether two values are equal. -/
  | equal (left right : Expr)
  /-- A lookup's answer. -/
  | found (value : Expr)
  /-- A lookup's failure. -/
  | missing (runtime : String)
  /-- The list of the items of an array. -/
  | listOf (array : Expr)
  /-- The array of an enum's variants. -/
  | variants (enumName : String) (names : List String)
  /-- What a local function returns for a borrowed local value. -/
  | applied (function x : String)
  /-- A pair of local values. -/
  | pair (x y : String)
  deriving DecidableEq, Repr

/-- A statement of a companion's functions. -/
inductive Stmt where
  /-- Runs the body for each item, bound to the name. -/
  | forEach (x : String) (items : Expr) (body : List Stmt)
  /-- Runs the body if the condition holds. -/
  | ifThen (condition : Expr) (body : List Stmt)
  /-- Ends the function. -/
  | giveBack (value : Expr)
  /-- Binds a local name. -/
  | bind (x : String) (value : Expr)
  /-- The value of the block that ends here. -/
  | result (value : Expr)
  /-- The map of the pairs that the body gives for the items in turn, each
  bound to the name. -/
  | collect (items : Expr) (x : String) (body : List Stmt)
  deriving Repr

/-! ### Functions -/

/-- A parameter of a function. -/
structure Binder where
  mutable : Bool
  name : String
  type : String
  deriving DecidableEq, Repr

/-- A function of a companion. -/
structure Function where
  /-- Whether it can be called from outside. -/
  exported : Bool
  name : String
  /-- Its type parameter. -/
  generic : Option String
  binder : Option Binder
  /-- The type of its result. -/
  type : String
  body : List Stmt
  deriving Repr

/-- The code of a companion. -/
structure Code where
  /-- The path of the module that declares the enum. -/
  scope : String
  /-- The name of the companion. -/
  name : String
  constants : List String
  functions : List Function
  deriving Repr

/-! ### Writing expressions and statements -/

namespace Expr

/-- The text of an expression. -/
def text : Expr → String
  | .name x => Name.spelling x
  | .table f => "Self::" ++ f ++ "()"
  | .access x accessor => Name.spelling x ++ "." ++ accessor ++ "()"
  | .equal l r => l.text ++ " == " ++ r.text
  | .found v => resultPath ++ "::Ok(" ++ v.text ++ ")"
  | .missing runtime => resultPath ++ "::Err(" ++ missingPath runtime ++ ")"
  | .listOf a => "::std::vec::Vec::from(" ++ a.text ++ ")"
  | .variants enumName names =>
    "[" ++ ", ".intercalate (names.map fun n => enumName ++ "::" ++ Name.spelling n) ++ "]"
  | .applied f x => f ++ "(&" ++ Name.spelling x ++ ")"
  | .pair x y => "(" ++ Name.spelling x ++ ", " ++ Name.spelling y ++ ")"

end Expr

mutual

/-- Writes a statement. -/
def Stmt.write : Stmt → Page → Page
  | .forEach x items body, p =>
    (writeAll body
      (p.openBlock ("for " ++ Name.spelling x ++ " in " ++ items.text))).closeBlock
  | .ifThen condition body, p =>
    (writeAll body (p.openBlock ("if " ++ condition.text))).closeBlock
  | .giveBack value, p => p.line ("return " ++ value.text ++ ";")
  | .bind x value, p => p.line ("let " ++ Name.spelling x ++ " = " ++ value.text ++ ";")
  | .result value, p => p.line value.text
  | .collect items x body, p =>
    let chain := ((p.line items.text).indent.line ".into_iter()")
    let mapped := writeAll body (chain.openBlock (".map(|" ++ Name.spelling x ++ "|"))
    ((mapped.closeBlockWith "\x7d)").line ".collect()").dedent

/-- Writes statements one after the other. -/
def writeAll : List Stmt → Page → Page
  | [], p => p
  | s :: rest, p => writeAll rest (s.write p)

end

/-! ### Writing functions -/

namespace Binder

/-- The text of a parameter. -/
def text (b : Binder) : String :=
  (if b.mutable then "mut " else "") ++ Name.spelling b.name ++ ": " ++ b.type

end Binder

namespace Function

/-- The text in front of a function's body. -/
def header (f : Function) : String :=
  (if f.exported then "pub " else "") ++ "fn " ++ f.name ++
    (match f.generic with | some g => "<" ++ g ++ ">" | none => "") ++
    "(" ++ (match f.binder with | some b => b.text | none => "") ++ ") -> " ++ f.type

/-- Writes a function. -/
def write (f : Function) (p : Page) : Page :=
  (writeAll f.body (p.openBlock f.header)).closeBlock

end Function

/-! ### Writing a companion -/

/-- The line that declares a constant, whose value is its own name. -/
def constantLine (name : String) : String :=
  "pub const " ++ Name.spelling name ++ ": &'static str = " ++ Text.encode name ++ ";"

namespace Code

/-- Writes the members: the constants, then the functions, each set off. -/
def writeMembers (c : Code) (p : Page) : Page :=
  c.functions.foldl (fun p f => f.write p.separate)
    (c.constants.foldl (fun p name => p.line (constantLine name)) p)

/-- Writes the companion on a page. -/
def write (c : Code) (p : Page) : Page :=
  let comment := (p.line ("// namespace " ++ c.scope)).separate
  let declared :=
    ((comment.line "#[allow(non_camel_case_types)]").line ("pub struct " ++ c.name ++ ";")).separate
  let lints :=
    "#[allow(non_snake_case, non_upper_case_globals, dead_code, private_interfaces)]"
  (c.writeMembers ((declared.line lints).openBlock ("impl " ++ c.name))).closeBlock

/-- The text of the companion with the given indentation. -/
def text (c : Code) (indentWidth : Nat) : String :=
  (c.write (Page.empty indentWidth)).text

end Code

end EnumCompanion.Companion
