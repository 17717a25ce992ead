import EnumCompanion.Text.Cut

/-!
# `EnumCompanion.FilePath`: paths of files as they are written

A path keeps the text it was written with: joining and taking the parent
never resolve `..` and never tidy up what they keep. What names a place is
the last piece between slashes that is neither empty nor a single point.
A leading slash makes a path absolute; a leading `.` is a place of its own,
so that the parent of `./x` is `.`, whose parent is the empty path.
`parent?_length` says that a parent has a shorter text.
-/

set_option autoImplicit false

namespace EnumCompanion

/-- A path, as it is written. -/
structure FilePath where
  text : String
  deriving DecidableEq, Repr

namespace FilePath

/-! ### Parts and joining -/

/-- Whether the path starts at the root. -/
def isAbsolute (p : FilePath) : Bool :=
  p.text.toList.head? == some '/'

/-- The texts between slashes. -/
def parts (p : FilePath) : List String :=
  (Text.cutAt '/' p.text.toList).map String.ofList

/-- A path seen from another. An absolute one stays as it is. -/
def join (base p : FilePath) : FilePath :=
  if p.isAbsolute then p
  else if base.text = "" || base.text.toList.getLast? == some '/' then ⟨base.text ++ p.text⟩
  else ⟨base.text ++ "/" ++ p.text⟩

/-- A path seen from another through directories in between. -/
def joinAll (base : FilePath) (names : List String) : FilePath :=
  names.foldl (fun p name => p.join ⟨name⟩) base

/-! ### Taking apart -/

/-- A text, backwards, without what names no place at its end: slashes, and
points that stand alone. -/
def trimmed : List Char → List Char
  | '/' :: rest => trimmed rest
  | '.' :: '/' :: rest => trimmed rest
  | ['.'] => []
  | rest => rest

/-- The leading slash or point that is a place of its own, and the text
behind it. -/
def lead : List Char → List Char × List Char
  | '/' :: rest => (['/'], rest)
  | ['.'] => (['.'], [])
  | '.' :: '/' :: rest => (['.'], '/' :: rest)
  | cs => ([], cs)

/-- Behind the lead, backwards: the text up to the end of the last name. -/
def named (p : FilePath) : List Char :=
  trimmed (lead p.text.toList).2.reverse

/-- The path without its last name; nothing if there is no name left and no
leading point. -/
def parent? (p : FilePath) : Option FilePath :=
  match p.named with
  | [] => if (lead p.text.toList).1 = ['.'] then some ⟨""⟩ else none
  | rest =>
    some ⟨String.ofList ((lead p.text.toList).1 ++
      (trimmed (rest.dropWhile (· != '/'))).reverse)⟩

/-- The parent; the empty path if there is none. -/
def parent (p : FilePath) : FilePath :=
  p.parent?.getD ⟨""⟩

/-- The last name. The way up is no name. -/
def fileName? (p : FilePath) : Option String :=
  let name := (p.named.takeWhile (· != '/')).reverse
  if name = [] || name = ['.', '.'] then none else some (String.ofList name)

/-- A name without what its last point begins; a point that opens the name
begins nothing. -/
def stemOf (name : String) : String :=
  match name.toList.reverse.dropWhile (· != '.') with
  | '.' :: c :: before => String.ofList (c :: before).reverse
  | _ => name

/-- The last name without its ending. -/
def stem? (p : FilePath) : Option String :=
  p.fileName?.map stemOf

/-! ### Parents are shorter -/

theorem length_trimmed_le (cs : List Char) : (trimmed cs).length ≤ cs.length := by
  fun_induction trimmed cs <;> grind

/-- What is left after trimming does not end in a slash. -/
theorem head?_trimmed (cs : List Char) : (trimmed cs).head? ≠ some '/' := by
  fun_induction trimmed cs with
  | case1 _ ih | case2 _ ih => exact ih
  | case3 => simp
  | case4 rest hslash _ _ =>
    cases rest with
    | nil => simp
    | cons c rest => intro h; exact hslash rest (by simp_all)

theorem length_lead (cs : List Char) : (lead cs).1.length + (lead cs).2.length = cs.length := by
  unfold lead
  split <;> simp <;> omega

/-- A parent has a shorter text. -/
theorem parent?_length {p q : FilePath} (h : p.parent? = some q) :
    q.text.length < p.text.length := by
  have hlead := length_lead p.text.toList
  have hnamed : p.named.length ≤ (lead p.text.toList).2.length := by
    simpa [named] using length_trimmed_le (lead p.text.toList).2.reverse
  rw [String.length_toList] at hlead
  unfold parent? at h
  split at h
  · split at h
    · next hl =>
      cases h
      simp [hl] at hlead
      simp
      omega
    · simp at h
  · next hne =>
    cases h
    have hdrop : (p.named.dropWhile (· != '/')).length < p.named.length := by
      have hhead := head?_trimmed (lead p.text.toList).2.reverse
      change p.named.head? ≠ _ at hhead
      cases hn : p.named with
      | nil => exact absurd hn hne
      | cons c rest =>
        have hc : c ≠ '/' := by simpa [hn] using hhead
        have := (List.dropWhile_suffix (l := rest) (· != '/')).length_le
        simp [hc]
        omega
    have htrim := length_trimmed_le (p.named.dropWhile (· != '/'))
    simp
    omega

end FilePath

end EnumCompanion
