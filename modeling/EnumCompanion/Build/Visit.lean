import EnumCompanion.Build.Locate
import EnumCompanion.Build.Report
import EnumCompanion.Build.World
import EnumCompanion.Declaration.Companion
import EnumCompanion.SourceText

/-!
# `EnumCompanion.Build.Visit`: the work on one source file

To visit a file is to read it, to deal with its declarations one after the
other, and then to look for the files of its modules in the tree as it is
by then. Every declaration gives one entry. What a file leads to is left
to the caller.
-/

set_option autoImplicit false

namespace EnumCompanion

/-- How a build is set up. -/
structure Build where
  /-- The file of the outermost module. -/
  root : FilePath := ⟨"src/lib.rs"⟩
  /-- The path of the outermost module. -/
  scope : String := "crate"
  /-- Where companions go, unless the environment says it. -/
  directory : Option FilePath := none
  /-- The attribute that marks declarations. -/
  marker : String := "companion"
  style : Companion.Style := {}
  /-- Whether the files that are read are announced on the console. -/
  announces : Bool := true
  deriving Repr

/-- A file to visit, with the path of its module. -/
structure Source where
  path : FilePath
  scope : String
  deriving DecidableEq, Repr

/-- What a visit gives: the entries of the declarations, and the files of
the modules. -/
structure Visit where
  entries : List Report.Entry
  next : List Source
  deriving Repr

namespace Build

variable {σ : Type}

/-! ### Reading -/

/-- Announces a file that is read. -/
def announce (b : Build) (path : FilePath) (w : World σ) : World σ :=
  if b.announces then w.print ("cargo:rerun-if-changed=" ++ path.text) else w

/-- The items of a file. -/
def items (tree : FileTree) (path : FilePath) : Except Failure (List Item) :=
  match tree.read? path with
  | none => .error (.read path)
  | some text =>
    match SourceText.file? text with
    | none => .error (.parse path)
    | some items => .ok items

/-! ### Declarations -/

/-- What the host is told when it could not put a companion away. -/
def emissionFailure : String := "An I/O error occurred"

/-- Puts a companion away. -/
def emit (host : Host σ) (c : Companion) (w : World σ) : Report.Entry × World σ :=
  match host.emit c.qualifiedName c.text w with
  | (some path, w) => (.generated path, w)
  | (none, w) => (.failed (.emission c.qualifiedName), host.report emissionFailure w)

/-- Deals with a declaration. -/
def handle (b : Build) (host : Host σ) (d : Declaration) (w : World σ) : Report.Entry × World σ :=
  match d.companion? b.style with
  | .error e => (.failed (.defect e), w.note .warn (d.place ++ ": " ++ e.message))
  | .ok none =>
    (.skipped d.place,
      (w.note .trace ("Skipping " ++ d.place ++ " (" ++ d.kind.text ++ "): not an enum")).note
        .debug ("Skipped " ++ d.place))
  | .ok (some c) =>
    emit host c
      (w.note .debug ("Generated " ++ c.summary.companionName ++ " for " ++ d.place))

/-- Deals with declarations, in order. -/
def handleAll (b : Build) (host : Host σ) : List Declaration → World σ → List Report.Entry × World σ
  | [], w => ([], w)
  | d :: rest, w =>
    let (entry, w) := b.handle host d w
    let (entries, w) := b.handleAll host rest w
    (entry :: entries, w)

/-! ### Modules -/

/-- The files of modules that are declared in a file, in order; modules
without one are left out. -/
def located (tree : FileTree) (file : FilePath) (modules : List ModuleFile) : List Source :=
  modules.filterMap fun m => (m.locate? tree file).map fun path => ⟨path, m.scope⟩

/-- The modules without a file. -/
def unlocated (tree : FileTree) (file : FilePath) (modules : List ModuleFile) :
    List ModuleFile :=
  modules.filter fun m => (m.locate? tree file).isNone

/-- Notes a module without a file. -/
def noteUnlocated (w : World σ) (m : ModuleFile) : World σ :=
  w.note .warn
    ("No source file found for module " ++ Defect.quoted m.scope ++ "; skipping it")

/-- Finds the files of modules. Those without one are noted, the last one
first. -/
def findFiles (file : FilePath) (modules : List ModuleFile) (w : World σ) :
    List Source × World σ :=
  (located w.tree file modules,
    (unlocated w.tree file modules).reverse.foldl noteUnlocated w)

/-! ### Visits -/

/-- Visits a file. -/
def visit (b : Build) (host : Host σ) (s : Source) (w : World σ) :
    Except Failure Visit × World σ :=
  let w := b.announce s.path w
  match items w.tree s.path with
  | .error f => (.error f, w)
  | .ok items =>
    let scan := Scan.file b.marker s.scope items
    let (entries, w) := b.handleAll host scan.declarations w
    let (next, w) := findFiles s.path scan.modules w
    (.ok ⟨entries, next⟩, w)

end Build

end EnumCompanion
