import EnumCompanion.Defect
import EnumCompanion.FilePath

/-!
# `EnumCompanion.Build.Report`: what became of each declaration

A report is a list of entries in the order of the work. The companions
that were put away, the declarations that were passed over and the
failures are its parts: every entry is in exactly one of them.
-/

set_option autoImplicit false

namespace EnumCompanion

/-- What can go wrong in a build. -/
inductive Failure where
  /-- A declaration is unfit for a companion. -/
  | defect (d : Defect)
  /-- A file cannot be read. -/
  | read (path : FilePath)
  /-- A file is no source text. -/
  | parse (path : FilePath)
  /-- A companion cannot be put away. -/
  | emission (name : String)
  /-- Nothing says where companions go. -/
  | missingDirectory
  deriving DecidableEq, Repr

/-- The sentence that reports the failure. -/
def Failure.message : Failure → String
  | .defect d => d.message
  | .read path => "Failed to read " ++ Defect.quoted path.text
  | .parse path => "Failed to parse " ++ Defect.quoted path.text
  | .emission name => "An I/O error occurred while emitting " ++ Defect.quoted name
  | .missingDirectory => "No output directory configured and OUT_DIR is not set"

/-- What became of a declaration or of a file. -/
inductive Report.Entry where
  /-- The companion is at the path. -/
  | generated (path : FilePath)
  /-- The declaration at the place is no enum. -/
  | skipped (place : String)
  | failed (f : Failure)
  deriving DecidableEq, Repr

/-- The entries of a run, in order. -/
structure Report where
  entries : List Report.Entry
  deriving DecidableEq, Repr

namespace Report

/-- Where the companions are. -/
def generated (r : Report) : List FilePath :=
  r.entries.filterMap fun
    | .generated path => some path
    | _ => none

/-- The places of what was passed over. -/
def skipped (r : Report) : List String :=
  r.entries.filterMap fun
    | .skipped place => some place
    | _ => none

/-- What went wrong. -/
def failures (r : Report) : List Failure :=
  r.entries.filterMap fun
    | .failed f => some f
    | _ => none

/-- Whether nothing went wrong. -/
def isSuccess (r : Report) : Bool :=
  r.failures.isEmpty

/-- The sentence that sums the report up. -/
def message (r : Report) : String :=
  "Generated " ++ Nat.repr r.generated.length ++ " companion(s), skipped " ++
    Nat.repr r.skipped.length ++ ", " ++ Nat.repr r.failures.length ++ " failure(s)"

end Report

end EnumCompanion
