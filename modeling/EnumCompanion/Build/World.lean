import EnumCompanion.FileTree.Change

/-!
# `EnumCompanion.Build.World`: what a build reads and leaves behind

A build works on a file tree, prints lines to the console and keeps a log.
Where companions go, and who is told when one cannot be put there, is up
to a host. A host may do anything to the world, and has a state of its own
in it.
-/

set_option autoImplicit false

namespace EnumCompanion

/-! ### Log -/

/-- How much a log entry matters. -/
inductive Level where
  | trace
  | debug
  | info
  | warn
  | error
  deriving DecidableEq, Repr

/-- The word for a level. -/
def Level.text : Level → String
  | .trace => "trace"
  | .debug => "debug"
  | .info => "info"
  | .warn => "warn"
  | .error => "error"

/-- An entry of the log. -/
structure LogEntry where
  level : Level
  message : String
  deriving DecidableEq, Repr

/-! ### Worlds -/

/-- All that a build reads and changes. -/
structure World (σ : Type) where
  tree : FileTree
  console : List String
  log : List LogEntry
  /-- The state of the host. -/
  state : σ

namespace World

variable {σ : Type}

/-- A world in which nothing has happened yet. -/
def fresh (tree : FileTree) (state : σ) : World σ :=
  ⟨tree, [], [], state⟩

/-- Prints a line. -/
def print (w : World σ) (line : String) : World σ :=
  { w with console := w.console ++ [line] }

/-- Adds to the log. -/
def note (w : World σ) (level : Level) (message : String) : World σ :=
  { w with log := w.log ++ [⟨level, message⟩] }

end World

/-! ### Hosts -/

/-- Where companions go. -/
structure Host (σ : Type) where
  /-- Puts a text under a name. Gives the path of the text, or nothing if it
  could not be put there. -/
  emit : (name text : String) → World σ → Option FilePath × World σ
  /-- Is told that something went wrong. -/
  report : (message : String) → World σ → World σ

end EnumCompanion
