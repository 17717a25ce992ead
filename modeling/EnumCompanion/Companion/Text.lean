import EnumCompanion.Companion.Code
import EnumCompanion.Summary

/-!
# `EnumCompanion.Companion.Text`: from a summary to a companion

A companion has a constant for every variant, a lookup for every
parameter, `associate`, `enumList`, and a private table of the variants
that these four use. `Companion.code` makes the code, choosing local
names that meet nothing else in their function, and `generate` writes
it down, if the summary has no defect.
-/

set_option autoImplicit false

namespace EnumCompanion.Companion

/-! ### Style -/

/-- How companions are written. -/
structure Style where
  /-- The path of the crate with the error of a failed lookup. -/
  runtime : String := "::enum_enhancer"
  /-- The spaces of one level of indentation. -/
  indentWidth : Nat := 4
  deriving DecidableEq, Repr

/-! ### Local names -/

/-- The name of the private table: the first one that no constant has. -/
def tableName (s : Summary) : String :=
  Name.fresh "values" s.constants

/-- The name of the loop variable in the lookup by a parameter. -/
def loopName (s : Summary) (p : Parameter) : String :=
  Name.fresh (Text.uncapitalize s.name) [p.name]

/-- The name of the variant that `associate` is at. -/
def itemName (s : Summary) : String :=
  Name.fresh (Text.uncapitalize s.name) ["transform", "value"]

/-- The name of the type parameter of `associate`. -/
def genericName (s : Summary) : String :=
  Name.fresh "E" [s.name]

/-! ### Members -/

/-- The lookup by a parameter: the first variant whose accessor gives the
argument. -/
def lookup (style : Style) (s : Summary) (p : Parameter) : Function where
  exported := true
  name := Name.lookup p.name
  generic := none
  binder := some ⟨false, p.name, p.type⟩
  type := resultPath ++ "<" ++ s.name ++ ", " ++ missingPath style.runtime ++ ">"
  body :=
    let x := loopName s p
    [.forEach x (.table (tableName s))
      [.ifThen (.equal (.access x (Name.accessor p.name)) (.name p.name))
        [.giveBack (.found (.name x))]],
     .result (.missing style.runtime)]

/-- The map from every variant to what a function gives for it. -/
def associate (s : Summary) : Function where
  exported := true
  name := "associate"
  generic := some (genericName s)
  binder :=
    some ⟨true, "transform", "impl FnMut(&" ++ s.name ++ ") -> " ++ genericName s⟩
  type := "::std::collections::HashMap<" ++ s.name ++ ", " ++ genericName s ++ ">"
  body :=
    let x := itemName s
    [.collect (.table (tableName s)) x
      [.bind "value" (.applied "transform" x), .result (.pair x "value")]]

/-- The list of the variants. -/
def enumList (s : Summary) : Function where
  exported := true
  name := "enumList"
  generic := none
  binder := none
  type := "::std::vec::Vec<" ++ s.name ++ ">"
  body := [.result (.listOf (.table (tableName s)))]

/-- The private table of the variants. -/
def table (s : Summary) : Function where
  exported := false
  name := tableName s
  generic := none
  binder := none
  type := "[" ++ s.name ++ "; " ++ Nat.repr s.constants.length ++ "]"
  body := [.result (.variants s.name s.constants)]

/-! ### Companions -/

/-- The code of the companion. -/
def code (style : Style) (s : Summary) : Code where
  scope := s.scope
  name := s.companionName
  constants := s.constants
  functions := s.parameters.map (lookup style s) ++ [associate s, enumList s, table s]

/-- The text of the companion; nothing is written for a summary with a
defect. -/
def generate (style : Style) (s : Summary) : Except Defect String :=
  match s.defect? with
  | some d => .error d
  | none => .ok ((code style s).text style.indentWidth)

end EnumCompanion.Companion
