import EnumCompanion.Build.World

/-!
# `EnumCompanion.Build.Directory`: companions as files of a directory

Each companion becomes a file named for it. The directory is made when the
first one comes. A message goes to the log, and to the console as a
warning of the package manager.
-/

set_option autoImplicit false

namespace EnumCompanion.Host

/-- The file of a companion in a directory. -/
def pathIn (directory : FilePath) (name : String) : FilePath :=
  directory.join ⟨name ++ ".rs"⟩

/-- Writes a text as a file of a directory. -/
def writeIn (directory : FilePath) (name text : String) (w : World Unit) :
    Option FilePath × World Unit :=
  match w.tree.createAll directory with
  | (tree, false) => (none, { w with tree := tree })
  | (tree, true) =>
    match tree.write (pathIn directory name) (.text text) with
    | .error _ => (none, { w with tree := tree })
    | .ok tree =>
      (some (pathIn directory name),
        { w with tree := tree }.note .debug ("Wrote " ++ (pathIn directory name).text))

/-- Logs a message and prints it as a warning. -/
def warn (message : String) (w : World Unit) : World Unit :=
  (w.note .error message).print ("cargo:warning=" ++ message)

/-- The host that writes the files of a directory. -/
def directory (directory : FilePath) : Host Unit where
  emit := writeIn directory
  report := warn

end EnumCompanion.Host
