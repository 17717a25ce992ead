import EnumCompanion.FilePath

/-!
# `EnumCompanion.FileTree`: files and directories

A tree maps locations, given by the names from the root on, to files and
directories. `node?` is its view and `put` its one way of adding; what
`put` does to the view is `node?_put`. A path leads to a location step by
step, and every step has to start in a directory that exists: only the
last location may be free, so `a/../b` is nowhere while `a` is missing.

Symbolic links and permissions are left out: a location holds a directory
or a file, and what is there can be read and written.
-/

set_option autoImplicit false

namespace EnumCompanion

/-- The names from the root to a place. -/
abbrev Location := List String

/-- What a file holds. -/
inductive Content where
  | text (s : String)
  /-- Bytes that are no text. -/
  | binary (bytes : List UInt8)
  deriving DecidableEq, Repr

/-- What stands at a location. -/
inductive Node where
  | directory
  | file (content : Content)
  deriving DecidableEq, Repr

/-- Why a path cannot be used. -/
inductive Obstacle where
  /-- Something on the way is missing. -/
  | missing
  /-- Something stands in the way, or the path cannot be one. -/
  | inTheWay
  deriving DecidableEq, Repr

/-- Files and directories, and the location where relative paths start. -/
structure FileTree where
  here : Location
  nodes : List (Location × Node)
  deriving Repr

namespace FileTree

/-! ### Nodes -/

/-- The empty tree, with a place to work in. -/
def empty : FileTree where
  here := ["work", "here"]
  nodes := [([], .directory), (["work"], .directory), (["work", "here"], .directory)]

/-- What stands at a location. -/
def node? (t : FileTree) (l : Location) : Option Node :=
  t.nodes.lookup l

/-- Puts a node at a location, in place of what stood there. -/
def put (t : FileTree) (l : Location) (n : Node) : FileTree :=
  { t with nodes := (l, n) :: t.nodes.filter (·.1 != l) }

theorem lookup_filter_ne {l k : Location} (h : k ≠ l) (nodes : List (Location × Node)) :
    (nodes.filter (·.1 != l)).lookup k = nodes.lookup k := by
  induction nodes with
  | nil => rfl
  | cons e rest ih =>
    obtain ⟨m, n⟩ := e
    by_cases hm : m = l
    · subst hm
      simp [List.lookup_cons, ih, beq_eq_false_iff_ne.mpr h]
    · simp [List.lookup_cons, hm, ih]

/-- Putting changes one location. -/
theorem node?_put (t : FileTree) (l k : Location) (n : Node) :
    (t.put l n).node? k = if k = l then some n else t.node? k := by
  by_cases h : k = l
  · simp [node?, put, h]
  · simp [node?, put, List.lookup_cons, beq_eq_false_iff_ne.mpr h, lookup_filter_ne h, h]

@[simp] theorem here_put (t : FileTree) (l : Location) (n : Node) : (t.put l n).here = t.here :=
  rfl

/-! ### Finding the way -/

/-- The most bytes that a name has. -/
def nameLimit : Nat := 255

/-- The most bytes that a path has. -/
def pathLimit : Nat := 4095

/-- A step from a location, which has to be a directory. -/
def enter (t : FileTree) (l : Location) (part : String) : Except Obstacle Location :=
  match t.node? l with
  | none => .error .missing
  | some (.file _) => .error .inTheWay
  | some .directory =>
    if part = "" || part = "." then .ok l
    else if part = ".." then .ok l.dropLast
    else if nameLimit < part.utf8ByteSize then .error .inTheWay
    else .ok (l ++ [part])

/-- The location where a path starts. -/
def start (t : FileTree) (p : FilePath) : Except Obstacle Location :=
  if p.text = "" then .error .missing
  else if pathLimit < p.text.utf8ByteSize || p.text.toList.contains '\x00' then .error .inTheWay
  else if p.isAbsolute then .ok []
  else .ok t.here

/-- Steps from a location. -/
def follow (t : FileTree) (l : Location) (parts : List String) : Except Obstacle Location :=
  parts.foldlM t.enter l

/-- The location that a path leads to. -/
def locate (t : FileTree) (p : FilePath) : Except Obstacle Location := do
  t.follow (← t.start p) p.parts

/-! ### Reading -/

/-- What a path leads to. -/
def at? (t : FileTree) (p : FilePath) : Option Node :=
  match t.locate p with
  | .ok l => t.node? l
  | .error _ => none

/-- Whether a path leads to a file. -/
def isFile (t : FileTree) (p : FilePath) : Bool :=
  match t.at? p with
  | some (.file _) => true
  | _ => false

/-- Whether a path leads to a directory. -/
def isDirectory (t : FileTree) (p : FilePath) : Bool :=
  t.at? p == some .directory

/-- The text of the file that a path leads to. -/
def read? (t : FileTree) (p : FilePath) : Option String :=
  match t.at? p with
  | some (.file (.text s)) => some s
  | _ => none

/-- The files below the working location, each with its path from there. -/
def files (t : FileTree) : List (String × Content) :=
  t.nodes.filterMap fun (l, n) =>
    match n with
    | .file content =>
      if t.here.isPrefixOf l then some ("/".intercalate (l.drop t.here.length), content) else none
    | .directory => none

end FileTree

end EnumCompanion
