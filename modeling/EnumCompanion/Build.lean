import EnumCompanion.Build.Directory
import EnumCompanion.Build.Recorder
import EnumCompanion.Build.Visit

/-!
# `EnumCompanion.Build`: companions for a tree of source files

A build keeps a stack of files to visit, with the root on it at first. A
turn visits the file on top and puts the files of its modules in its
place, the last one first, so that the first one is visited next. Only the
root can fail a run: a file below it that cannot be read is one more entry
of the report.

Files may lead back to each other without end, so a run is given a budget
of turns and says when it has used it up.
-/

set_option autoImplicit false

namespace EnumCompanion

/-- How a run ends. -/
inductive Outcome (σ : Type) where
  /-- All files are visited, or the root cannot be read. -/
  | finished (result : Except Failure Report) (world : World σ)
  /-- There were more files than the budget allows. -/
  | exhausted

/-- A run between two visits. -/
structure Run (σ : Type) where
  /-- The files to visit, the next one last. -/
  pending : Array Source
  /-- Whether the root is still to be read. -/
  atRoot : Bool
  entries : List Report.Entry
  world : World σ

/-- What a turn leads to. -/
inductive Turn (σ : Type) where
  | ends (result : Except Failure Report) (world : World σ)
  | goesOn (run : Run σ)

namespace Build

variable {σ : Type}

/-! ### Runs -/

/-- The root as a file to visit. -/
def start (b : Build) : Source :=
  ⟨b.root, b.scope⟩

/-- The run that has done nothing yet. -/
def begin (b : Build) (w : World σ) : Run σ :=
  ⟨#[b.start], true, [], w⟩

/-- Puts files on a stack, the last one first. -/
def stack (pending : Array Source) (next : List Source) : Array Source :=
  next.reverse.foldl Array.push pending

/-- Visits the file on top of the stack, or ends the run if there is
none. -/
def turn (b : Build) (host : Host σ) (r : Run σ) : Turn σ :=
  match r.pending.back? with
  | none =>
    let report : Report := ⟨r.entries⟩
    .ends (.ok report) (r.world.note .info report.message)
  | some s =>
    match b.visit host s r.world with
    | (.error f, w) =>
      if r.atRoot then .ends (.error f) w
      else .goesOn ⟨r.pending.pop, false, r.entries ++ [.failed f], w.note .warn f.message⟩
    | (.ok v, w) => .goesOn ⟨stack r.pending.pop v.next, false, r.entries ++ v.entries, w⟩

/-- Takes turns until the run ends, at most the given number of them. -/
def takeTurns (b : Build) (host : Host σ) : Nat → Run σ → Outcome σ
  | 0, _ => .exhausted
  | budget + 1, r =>
    match b.turn host r with
    | .ends result w => .finished result w
    | .goesOn r => b.takeTurns host budget r

/-! ### Builds -/

/-- Runs a build with a host. -/
def runWith (b : Build) (host : Host σ) (budget : Nat) (w : World σ) : Outcome σ :=
  b.takeTurns host budget (b.begin w)

/-- Runs a build that writes files, to its own directory or else to the one
that the environment gives. -/
def run (b : Build) (fromEnvironment : Option FilePath) (budget : Nat) (w : World Unit) :
    Outcome Unit :=
  match b.directory.or fromEnvironment with
  | none => .finished (.error .missingDirectory) w
  | some directory => b.runWith (.directory directory) budget w

end Build

end EnumCompanion
