import EnumCompanion.FileTree

/-!
# `EnumCompanion.FileTree.Change`: writing files and making directories

A file is written only into a directory that exists, and a file that can be
opened takes all that is written to it. `createAll` makes a directory
together with the missing ones above it, from the top; what it has made
before it meets an obstacle stays.
-/

set_option autoImplicit false

namespace EnumCompanion.FileTree

/-! ### One change -/

/-- Writes a file, in place of one that stood there. Only the opening of the
file can fail: a device that gives out halfway is left out. -/
def write (t : FileTree) (p : FilePath) (content : Content) : Except Obstacle FileTree := do
  let l ← t.locate p
  if t.node? l = some .directory then throw .inTheWay
  return t.put l (.file content)

/-- Makes a directory where nothing stands. Slashes at the end of the path
mean nothing. -/
def makeDirectory (t : FileTree) (p : FilePath) : Except Obstacle FileTree := do
  let top ← t.start p
  match p.parts.reverse.dropWhile (· = "") with
  | [] => throw .inTheWay
  | name :: above =>
    let l ← t.enter (← t.follow top above.reverse) name
    if (t.node? l).isSome then throw .inTheWay
    return t.put l .directory

/-! ### Directories with those above them -/

/-- Makes a directory unless it is there, and says whether it is there
now. -/
def ensure (t : FileTree) (p : FilePath) : FileTree × Bool :=
  match t.makeDirectory p with
  | .ok t => (t, true)
  | .error _ => (t, t.isDirectory p)

/-- Makes a directory and what is missing above it, and says whether it is
there now. The empty path is always there. -/
def createAll (t : FileTree) (p : FilePath) : FileTree × Bool :=
  if p.text = "" then (t, true)
  else
    match t.makeDirectory p with
    | .ok t => (t, true)
    | .error .inTheWay => (t, t.isDirectory p)
    | .error .missing =>
      match _h : p.parent? with
      | none => (t, false)
      | some q =>
        match t.createAll q with
        | (t, true) => t.ensure p
        | (t, false) => (t, false)
termination_by p.text.length
decreasing_by exact FilePath.parent?_length _h

/-! ### Arranging a tree -/

/-- Provides a file, or a directory if no content is given, with the
directories above. -/
def provide (t : FileTree) (p : FilePath) : Option Content → FileTree
  | none => (t.createAll p).1
  | some content =>
    let t := (t.createAll p.parent).1
    match t.write p content with
    | .ok t => t
    | .error _ => t

/-- Removes what a path leads to, with all that is below. -/
def remove (t : FileTree) (p : FilePath) : FileTree :=
  match t.locate p with
  | .ok l => { t with nodes := t.nodes.filter fun e => !l.isPrefixOf e.1 }
  | .error _ => t

end EnumCompanion.FileTree
