/-!
# `EnumCompanion.ModulePath`: paths of modules

A module path is written with its segments joined by `::`. `segments`
cuts a text at every `::`, read from the left, so that
`ofSegments (segments s) = s`; the empty text has one empty segment.
-/

set_option autoImplicit false

namespace EnumCompanion.ModulePath

/-- Puts a character in front of the first segment. -/
def consFirst (c : Char) : List (List Char) → List (List Char)
  | s :: rest => (c :: s) :: rest
  | [] => [[c]]

/-- Cuts at every `::`. -/
def cut : List Char → List (List Char)
  | [] => [[]]
  | ':' :: ':' :: rest => [] :: cut rest
  | c :: rest => consFirst c (cut rest)

/-- The segments of a path. -/
def segments (path : String) : List String :=
  (cut path.toList).map String.ofList

/-- The path with the given segments. -/
def ofSegments (parts : List String) : String :=
  "::".intercalate parts

end EnumCompanion.ModulePath
