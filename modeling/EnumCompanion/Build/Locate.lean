import EnumCompanion.FileTree
import EnumCompanion.Scan

/-!
# `EnumCompanion.Build.Locate`: the files of modules

A module without a body is in a file of its own. A file named `lib.rs`,
`main.rs` or `mod.rs` has the files of its modules beside it; any other
file has them in a directory named for it. The names of the inline modules
around the declaration are directories below that. An attribute names the
file outright, seen from there or, if no inline module is around, from the
directory of the declaring file.
-/

set_option autoImplicit false

namespace EnumCompanion

/-- The directory with the files of a file's modules. -/
def FilePath.moduleDirectory (file : FilePath) : FilePath :=
  match file.fileName? with
  | some "lib.rs" | some "main.rs" | some "mod.rs" => file.parent
  | some name => file.parent.join ⟨stemOf name⟩
  | none => file.parent

namespace ModuleFile

/-- The paths that may be the file of a module declared in the given
file. -/
def candidates (m : ModuleFile) (file : FilePath) : List FilePath :=
  let directory := file.moduleDirectory.joinAll m.around
  match m.path with
  | some path =>
    [(if m.around.isEmpty then file.parent else directory).join ⟨path⟩]
  | none =>
    [directory.join ⟨m.name ++ ".rs"⟩, (directory.join ⟨m.name⟩).join ⟨"mod.rs"⟩]

/-- The file of a module declared in the given file: the first candidate
that exists. -/
def locate? (m : ModuleFile) (tree : FileTree) (file : FilePath) : Option FilePath :=
  (m.candidates file).find? tree.isFile

end ModuleFile

end EnumCompanion
