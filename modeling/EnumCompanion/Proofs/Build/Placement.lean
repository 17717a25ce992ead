import EnumCompanion.Proofs.Build.Cycles

/-!
# `EnumCompanion.Proofs.Build.Placement`: modules where the compiler has them

The compiler decides by the way a file came into the crate whether its
modules are beside it: they are if the file is the root, if an attribute
named it, or if its name is `mod.rs`. A build knows only the name of the
file, and takes `lib.rs`, `main.rs` and `mod.rs` for files with their
modules beside them.

* `Origin`: how a file came into the crate. `Origin.directory` and
  `Origin.candidates` are the rule of the compiler.
* `moduleDirectory_eq_iff`: the two rules name the same directory exactly
  if the file is `JudgedAlike`.
* `reads_properFile`: a run reads the file that the compiler finds for a
  module, if the declaring file is the root or is judged alike, or if the
  rule for the directory does not matter.
* `namedFile_loses_module`: otherwise the file may never be read.
-/

set_option autoImplicit false

namespace EnumCompanion

/-! ### Names and stems -/

namespace FilePath

/-- A name is not empty and has no slash. -/
theorem fileName?_spec {p : FilePath} {name : String} (h : p.fileName? = some name) :
    name.toList ≠ [] ∧ '/' ∉ name.toList := by
  simp only [fileName?, Bool.or_eq_true, decide_eq_true_eq] at h
  split at h
  · cases h
  · next hne =>
    cases h
    rw [String.toList_ofList]
    refine ⟨fun hnil => hne (.inl hnil), fun hmem => ?_⟩
    have hslash := List.all_eq_true.mp List.all_takeWhile '/' (List.mem_reverse.mp hmem)
    simp at hslash

/-- Neither is a stem, and it has no other characters than the name. -/
theorem stemOf_spec {name : String} (h : name.toList ≠ []) :
    (stemOf name).toList ≠ [] ∧ (stemOf name).toList ⊆ name.toList := by
  unfold stemOf
  split
  · next c before hdrop =>
    rw [String.toList_ofList]
    refine ⟨by simp, fun x hx => ?_⟩
    have hx' : x ∈ name.toList.reverse.dropWhile (· != '.') := by
      rw [hdrop]
      exact List.mem_cons_of_mem _ (List.mem_reverse.mp hx)
    exact List.mem_reverse.mp ((List.dropWhile_sublist _).subset hx')
  · exact ⟨h, List.Subset.refl _⟩

/-- Going into a directory makes a path longer. -/
theorem join_ne_self {base p : FilePath} (hne : p.text.toList ≠ [])
    (hrelative : '/' ∉ p.text.toList) :
    base.join p ≠ base := by
  have habsolute : p.isAbsolute = false := by
    cases hp : p.text.toList with
    | nil => exact absurd hp hne
    | cons c rest =>
      rw [hp] at hrelative
      have hc : c ≠ '/' := fun hc => hrelative (hc ▸ List.mem_cons_self)
      simp [isAbsolute, hp, hc]
  have hlength : 0 < p.text.length := by
    rw [← String.length_toList]
    exact List.length_pos_iff.mpr hne
  intro h
  have htext := congrArg (fun q : FilePath => q.text.length) h
  simp only [join, habsolute, Bool.false_eq_true, if_false] at htext
  split at htext <;> simp only [String.length_append] at htext <;> omega

/-- Whether a build takes the file for one with its modules beside it. -/
def hasOwnerName (p : FilePath) : Bool :=
  p.fileName? = some "lib.rs" || p.fileName? = some "main.rs" || p.fileName? = some "mod.rs"

/-- The directory beside a file, or the one that is named for it. -/
def directoryFor (p : FilePath) (owns : Bool) : FilePath :=
  if owns then p.parent
  else
    match p.stem? with
    | some stem => p.parent.join ⟨stem⟩
    | none => p.parent

theorem moduleDirectory_eq (p : FilePath) : p.moduleDirectory = p.directoryFor p.hasOwnerName := by
  unfold moduleDirectory directoryFor hasOwnerName stem?
  split
  · next h => simp [h]
  · next h => simp [h]
  · next h => simp [h]
  · next name hlib hmain hmod h =>
    have hother : ¬ ((name = "lib.rs" ∨ name = "main.rs") ∨ name = "mod.rs") := by
      rintro ((hname | hname) | hname)
      · exact hlib hname
      · exact hmain hname
      · exact hmod hname
    simp [h, hother]
  · next h => simp [h]

/-- A file with a name has two different directories for its modules. -/
theorem directoryFor_inj {p : FilePath} {name : String} (hname : p.fileName? = some name)
    {owns owns' : Bool} : p.directoryFor owns = p.directoryFor owns' ↔ owns = owns' := by
  obtain ⟨hne, hslash⟩ := fileName?_spec hname
  obtain ⟨hstem, hsubset⟩ := stemOf_spec hne
  have hdiffer : p.parent.join ⟨stemOf name⟩ ≠ p.parent :=
    join_ne_self hstem fun hmem => hslash (hsubset hmem)
  cases owns <;> cases owns' <;>
    simp [directoryFor, stem?, hname, hdiffer, Ne.symm hdiffer]

end FilePath

/-! ### The rule of the compiler -/

/-- How a file came into a crate. -/
inductive Origin where
  /-- As the root. -/
  | root
  /-- Under the name of its module. -/
  | found
  /-- By an attribute. -/
  | named
  deriving DecidableEq, Repr

namespace Origin

/-- How the file of a module comes into the crate. -/
def ofModule (m : ModuleFile) : Origin :=
  if m.path.isSome then .named else .found

/-- Whether the modules of a file are beside it. -/
def owns (o : Origin) (file : FilePath) : Bool :=
  match o with
  | .root | .named => true
  | .found => file.fileName? = some "mod.rs"

/-- The directory with the files of a file's modules. -/
def directory (o : Origin) (file : FilePath) : FilePath :=
  file.directoryFor (o.owns file)

/-- The paths that may be the file of a module. -/
def candidates (o : Origin) (file : FilePath) (m : ModuleFile) : List FilePath :=
  let directory := (o.directory file).joinAll m.around
  match m.path with
  | none => [directory.join ⟨m.name ++ ".rs"⟩, (directory.join ⟨m.name⟩).join ⟨"mod.rs"⟩]
  | some path => [(if m.around = [] then file.parent else directory).join ⟨path⟩]

/-- Of the paths that may be the file of the module, exactly one is a file. -/
def IsProperFile (o : Origin) (t : FileTree) (file : FilePath) (m : ModuleFile) (found : FilePath) :
    Prop :=
  (o.candidates file m).filter t.isFile = [found]

/-- The name of a file says the same about its modules as the way that it came
into the crate. -/
def JudgedAlike (o : Origin) (file : FilePath) : Prop :=
  file.hasOwnerName = o.owns file

end Origin

/-- The root is judged alike if it has one of the two names for roots. -/
theorem Origin.judgedAlike_root {file : FilePath}
    (h : file.fileName? = some "lib.rs" ∨ file.fileName? = some "main.rs") :
    Origin.root.JudgedAlike file := by
  obtain h | h := h <;> simp [Origin.JudgedAlike, FilePath.hasOwnerName, Origin.owns, h]

/-- A build and the compiler look into the same directory exactly if they
judge the file alike. -/
theorem Origin.moduleDirectory_eq_iff {file : FilePath} {name : String}
    (hname : file.fileName? = some name) (o : Origin) :
    file.moduleDirectory = o.directory file ↔ o.JudgedAlike file := by
  rw [FilePath.moduleDirectory_eq, Origin.directory, FilePath.directoryFor_inj hname,
    Origin.JudgedAlike]

/-- The directory matters for every module but one that an attribute places
and that is in no inline module. -/
theorem Origin.candidates_eq {o : Origin} {file : FilePath} {m : ModuleFile}
    (h : o.JudgedAlike file ∨ m.path.isSome = true ∧ m.around = []) :
    m.candidates file = o.candidates file m := by
  obtain halike | ⟨hpath, haround⟩ := h
  · have hdirectory : file.moduleDirectory = o.directory file := by
      rw [FilePath.moduleDirectory_eq, Origin.directory, halike]
    simp only [ModuleFile.candidates, Origin.candidates, hdirectory, List.isEmpty_iff]
    cases m.path <;> rfl
  · obtain ⟨path, hpath⟩ := Option.isSome_iff_exists.mp hpath
    simp only [ModuleFile.candidates, Origin.candidates, hpath, haround]
    rfl

/-- The only file among the candidates is the first. -/
theorem ModuleFile.locate?_of_isProperFile {o : Origin} {t : FileTree} {file found : FilePath}
    {m : ModuleFile} (hproper : o.IsProperFile t file m found)
    (h : m.candidates file = o.candidates file m) : m.locate? t file = some found := by
  rw [ModuleFile.locate?, h, ← List.head?_filter, hproper]
  rfl

namespace Build

variable {σ : Type}

/-- The files of a crate, as a build finds them, and how each of them comes
into the crate. -/
inductive ComesFrom (b : Build) (t : FileTree) : FilePath → Origin → Prop
  | root : ComesFrom b t b.root .root
  | module {file found : FilePath} {o : Origin} {m : ModuleFile} (hfile : ComesFrom b t file o)
      (hm : m ∈ b.declared t file) (hfound : m.locate? t file = some found) :
      ComesFrom b t found (.ofModule m)

theorem ComesFrom.reaches {b : Build} {t : FileTree} {file : FilePath} {o : Origin}
    (h : b.ComesFrom t file o) : b.Reaches t file := by
  induction h with
  | root => exact .refl
  | module _ hm hfound ih => exact ih.tail ⟨_, hm, hfound⟩

/-- Only the root of a crate comes into it as the root. -/
theorem ComesFrom.eq_root {b : Build} {t : FileTree} {file : FilePath} {o : Origin}
    (h : b.ComesFrom t file o) (ho : o = .root) : file = b.root := by
  cases h with
  | root => rfl
  | @module _ _ _ m _ _ _ =>
    unfold Origin.ofModule at ho
    split at ho <;> cases ho

/-- A run that ends has read every file that its root leads to. -/
theorem exists_stop_of_reaches {b : Build} {host : Host σ} {w last : World σ} {budget : Nat}
    {result : Except Failure Report} (hhost : host.Keeps (b.SameSources w.tree))
    (hrun : b.runWith host budget w = .finished result last) {p : FilePath}
    (hp : b.Reaches w.tree p) : ∃ k ∈ b.stops host budget (b.begin w), k.source.path = p := by
  have hroot : b.Reaches w.tree b.start.path := .refl
  obtain ⟨depth, all, hall, hstops⟩ := exists_walk_of_finished hrun
  rw [hstops]
  obtain rfl | hbelow := Relation.reflTransGen_iff_eq_or_transGen.mp hp
  · obtain ⟨k, hk, hsource⟩ := exists_stop_of_walk hall
    exact ⟨k, hk, by rw [hsource]; rfl⟩
  · obtain ⟨_, _, s, _, all', rfl, _, hall', hsubset⟩ :=
      exists_walk_below hhost hroot (.refl b w.tree) hall hbelow
    obtain ⟨k, hk, hsource⟩ := exists_stop_of_walk hall'
    exact ⟨k, hsubset hk, by rw [hsource]⟩

/-- A run reads the file that the compiler finds for a module of the root, and
for a module of any other file that it judges alike. Where an attribute
places the module and no inline module is around it, it reads the file in
any case. -/
theorem reads_properFile {b : Build} {host : Host σ} {w last : World σ} {budget : Nat}
    {result : Except Failure Report} (hhost : host.Keeps (b.SameSources w.tree))
    (hroot : b.root.fileName? = some "lib.rs" ∨ b.root.fileName? = some "main.rs")
    (hrun : b.runWith host budget w = .finished result last) {file found : FilePath} {o : Origin}
    {m : ModuleFile} (hfile : b.ComesFrom w.tree file o) (hm : m ∈ b.declared w.tree file)
    (hproper : o.IsProperFile w.tree file m found)
    (halike : o = .root ∨ o.JudgedAlike file ∨ m.path.isSome = true ∧ m.around = []) :
    ∃ k ∈ b.stops host budget (b.begin w), k.source.path = found := by
  have hcandidates : m.candidates file = o.candidates file m := by
    obtain rfl | halike := halike
    · -- The two names for roots are among those that a build judges by.
      obtain rfl := hfile.eq_root rfl
      exact Origin.candidates_eq (.inl (Origin.judgedAlike_root hroot))
    · exact Origin.candidates_eq halike
  have hfound := ModuleFile.locate?_of_isProperFile hproper hcandidates
  exact exists_stop_of_reaches hhost hrun (hfile.reaches.tail ⟨m, hm, hfound⟩)

/-- A library with a module whose file an attribute names. -/
def namedFile (path text : String) (module : List String) (inside : String) : FileTree where
  here := []
  nodes :=
    [([], .directory), (["src"], .directory), (["src", "gen"], .directory),
      (["src", "gen", "inner"], .directory),
      (["src", "lib.rs"], .file (.text ("#[path = \"gen/" ++ path ++ "\"] mod a;"))),
      (["src", "gen", path], .file (.text text)),
      (["src", "gen"] ++ module, .file (.text inside))]

/-- Modules of a file called `mod.rs` are where the compiler has them, also
below the directory of an inline module. -/
theorem namedFile_reads_module :
    let t := namedFile "mod.rs" "mod inner { mod y; }" ["inner", "y.rs"] "#[companion] enum Z { X }"
    let m : ModuleFile := ⟨"crate::inner::y", ["inner"], "y", none⟩
    (Host.recorder []).Keeps (SameSources {} t) ∧
      ComesFrom {} t ⟨"src/gen/mod.rs"⟩ .named ∧ m ∈ declared {} t ⟨"src/gen/mod.rs"⟩ ∧
      Origin.named.IsProperFile t ⟨"src/gen/mod.rs"⟩ m ⟨"src/gen/inner/y.rs"⟩ ∧
      Origin.named.JudgedAlike ⟨"src/gen/mod.rs"⟩ ∧
      ∃ k ∈ stops {} (.recorder []) 4 (begin {} (.fresh t .empty)),
        k.source.path = ⟨"src/gen/inner/y.rs"⟩ := by
  intro t m
  have hhost := Host.recorder_keeps [] (SameSources {} t)
  have hroot : declared {} t ⟨"src/lib.rs"⟩ = [⟨"crate::a", [], "a", some "gen/mod.rs"⟩] := by
    decide +kernel
  have hfile : ComesFrom {} t ⟨"src/gen/mod.rs"⟩ .named :=
    .module .root (hroot ▸ List.mem_cons_self) (by decide +kernel)
  have hm : m ∈ declared {} t ⟨"src/gen/mod.rs"⟩ := by decide +kernel
  have hproper : Origin.named.IsProperFile t ⟨"src/gen/mod.rs"⟩ m ⟨"src/gen/inner/y.rs"⟩ := by
    unfold Origin.IsProperFile
    decide +kernel
  have halike : Origin.named.JudgedAlike ⟨"src/gen/mod.rs"⟩ := by
    unfold Origin.JudgedAlike
    decide +kernel
  have hreport : ((runWith {} (.recorder []) 4 (.fresh t .empty)).report?.map
      Report.generated) = some [⟨"recorded/crate.a.inner.y.Z_"⟩] := by
    decide +kernel
  obtain ⟨report, hreport, -⟩ := Option.map_eq_some_iff.mp hreport
  obtain ⟨last, hrun⟩ := Outcome.exists_of_report? hreport
  exact ⟨hhost, hfile, hm, hproper, halike,
    reads_properFile hhost (.inl rfl) hrun hfile hm hproper (.inr (.inl halike))⟩

/-- Modules of a file that an attribute names by any other name are not found
where the compiler has them. -/
theorem namedFile_loses_module :
    let t := namedFile "x.rs" "mod y;" ["y.rs"] "#[companion] enum Z { X }"
    let m : ModuleFile := ⟨"crate::y", [], "y", none⟩
    ComesFrom {} t ⟨"src/gen/x.rs"⟩ .named ∧ m ∈ declared {} t ⟨"src/gen/x.rs"⟩ ∧
      Origin.named.IsProperFile t ⟨"src/gen/x.rs"⟩ m ⟨"src/gen/y.rs"⟩ ∧
      ∃ last, runWith {} (.recorder []) 3 (.fresh t .empty) = .finished (.ok ⟨[]⟩) last ∧
        ∀ k ∈ stops {} (.recorder []) 3 (begin {} (.fresh t .empty)),
          k.source.path ≠ ⟨"src/gen/y.rs"⟩ := by
  intro t m
  have hroot : declared {} t ⟨"src/lib.rs"⟩ = [⟨"crate::a", [], "a", some "gen/x.rs"⟩] := by
    decide +kernel
  have hreport : (runWith {} (.recorder []) 3 (.fresh t .empty)).report? = some ⟨[]⟩ := by
    decide +kernel
  have hstops : ∀ k ∈ stops {} (.recorder []) 3 (begin {} (.fresh t .empty)),
      k.source.path ≠ ⟨"src/gen/y.rs"⟩ := by decide +kernel
  have hproper : Origin.named.IsProperFile t ⟨"src/gen/x.rs"⟩ m ⟨"src/gen/y.rs"⟩ := by
    unfold Origin.IsProperFile
    decide +kernel
  obtain ⟨last, hrun⟩ := Outcome.exists_of_report? hreport
  exact ⟨.module .root (hroot ▸ List.mem_cons_self) (by decide +kernel), by decide +kernel, hproper,
    last, hrun, hstops⟩

end Build

end EnumCompanion
