import EnumCompanion.Proofs.Build.Invariant
import EnumCompanion.Proofs.Build.Lockstep
import EnumCompanion.Proofs.FileTree.Shape
import Mathlib.Logic.Relation

/-!
# `EnumCompanion.Proofs.Build.Rerun`: a second run changes nothing

A run that writes files is repeated in the tree that it has left. If
writing has not touched what the run reads, the second run visits the same
files, and makes the same requests to its host. It remains to see that the
tree which is already there answers them in the same way, and stays as it
is but for the time in which a file that is written more than once holds
the text of an earlier request.

* `Reading.Stands`: what a visit has found is so in the tree that is left.
* `store`: a request to the host, in terms of the tree alone.
* `Replays`: the trees of the two runs at the same point, and the one that
  the first run leaves. `Replays.store` is the step.
* `lockstep_directory` and `run_again`: all steps, and whole runs.
-/

set_option autoImplicit false

namespace EnumCompanion

open FileTree

/-! ### What a run finds -/

/-- The paths that are tried to find the file of a module: all candidates up to
the first one that is a file. -/
def ModuleFile.probes (m : ModuleFile) (t : FileTree) (file : FilePath) : List FilePath :=
  (m.candidates file).takeWhile (!t.isFile ·) ++ (m.locate? t file).toList

/-- The paths that are tried settle what is found. -/
theorem ModuleFile.locate?_congr {m : ModuleFile} {t t' : FileTree} {file : FilePath}
    (h : ∀ p ∈ m.probes t file, t'.isFile p = t.isFile p) : m.locate? t' file = m.locate? t file := by
  unfold probes locate? at h
  unfold locate?
  -- The candidates are tried in order, up to the first that is a file.
  generalize m.candidates file = candidates at h ⊢
  induction candidates with
  | nil => rfl
  | cons p rest ih =>
    cases hp : t.isFile p with
    | true =>
      have hp' : t'.isFile p = true := (h p (by simp [hp])).trans hp
      rw [List.find?_cons_of_pos hp', List.find?_cons_of_pos hp]
    | false =>
      rw [List.takeWhile_cons_of_pos (by simp [hp]), List.find?_cons_of_neg (by simp [hp])] at h
      have hp' : t'.isFile p = false := (h p (by simp)).trans hp
      rw [List.find?_cons_of_neg (by simp [hp']), List.find?_cons_of_neg (by simp [hp])]
      exact ih fun q hq => h q (List.mem_cons_of_mem _ hq)

namespace Build

/-- The modules with a file of their own that a visit finds. -/
def Reading.modules (b : Build) (x : Reading) : List ModuleFile :=
  match items x.before x.source.path with
  | .error _ => []
  | .ok found => (Scan.file b.marker x.source.scope found).modules

/-- What a visit has read and tried is the same in another tree. -/
structure Reading.Stands (b : Build) (final : FileTree) (x : Reading) : Prop where
  text : final.read? x.source.path = x.before.read? x.source.path
  files : ∀ m ∈ x.modules b, ∀ p ∈ m.probes x.after x.source.path,
    final.isFile p = x.after.isFile p

instance (b : Build) (final : FileTree) (x : Reading) : Decidable (x.Stands b final) :=
  decidable_of_iff
    (final.read? x.source.path = x.before.read? x.source.path ∧
      ∀ m ∈ x.modules b, ∀ p ∈ m.probes x.after x.source.path, final.isFile p = x.after.isFile p)
    ⟨fun h => ⟨h.1, h.2⟩, fun h => ⟨h.text, h.files⟩⟩

/-! ### Requests -/

/-- A text that is put under a name in a directory: whether it can be, and the
tree that is left. -/
def store (directory : FilePath) (name text : String) (t : FileTree) : Bool × FileTree :=
  match t.createAll directory with
  | (t, false) => (false, t)
  | (t, true) =>
    match t.write (Host.pathIn directory name) (.text text) with
    | .error _ => (false, t)
    | .ok t => (true, t)

/-- What putting a companion away adds to the entries. -/
def storeEntry (directory : FilePath) (name : String) (done : Bool) : Report.Entry :=
  if done then .generated (Host.pathIn directory name) else .failed (.emission name)

/-- The console lines and the log entries of a request. -/
def storeLines (done : Bool) : List String :=
  if done then [] else ["cargo:warning=" ++ emissionFailure]

def storeNotes (directory : FilePath) (name : String) (done : Bool) : List LogEntry :=
  if done then [⟨.debug, "Wrote " ++ (Host.pathIn directory name).text⟩]
  else [⟨.error, emissionFailure⟩]

/-- Of the world before, a request to put a text away sees the tree alone. -/
theorem writeIn_eq (directory : FilePath) (name text : String) (w : World Unit) :
    Host.writeIn directory name text w =
      let (done, tree) := store directory name text w.tree
      (if done then some (Host.pathIn directory name) else none,
        { w with
          tree := tree
          log := w.log ++
            if done then [⟨.debug, "Wrote " ++ (Host.pathIn directory name).text⟩] else [] }) := by
  cases hmade : w.tree.createAll directory with
  | mk t made =>
    cases made with
    | false => simp [Host.writeIn, store, hmade]
    | true =>
      cases hwrite : t.write (Host.pathIn directory name) (.text text) <;>
        simp [Host.writeIn, store, hmade, hwrite, World.note]

theorem emit_directory (directory : FilePath) (c : Companion) (w : World Unit) :
    emit (.directory directory) c w =
      let (done, tree) := store directory c.qualifiedName c.text w.tree
      (storeEntry directory c.qualifiedName done,
        { w with
          tree := tree
          console := w.console ++ storeLines done
          log := w.log ++ storeNotes directory c.qualifiedName done }) := by
  have hemit : (Host.directory directory).emit = Host.writeIn directory := rfl
  unfold emit
  rw [hemit, writeIn_eq]
  cases store directory c.qualifiedName c.text w.tree with
  | mk done t => cases done <;> simp [storeEntry, storeLines, storeNotes, Host.directory,
      Host.warn, World.note, World.print]

/-! ### The trees after a request -/

/-- What is true of trees that requests lead to: all directories stay, and a
text file stays one. -/
structure Keeps (t t' : FileTree) : Prop extends t.Grows t' where
  text : ∀ l s, t.node? l = some (.file (.text s)) → ∃ s', t'.node? l = some (.file (.text s'))

theorem Keeps.refl (t : FileTree) : Keeps t t :=
  ⟨.refl t, fun _ s h => ⟨s, h⟩⟩

theorem Keeps.trans {t t' t'' : FileTree} (h : Keeps t t') (h' : Keeps t' t'') : Keeps t t'' where
  toGrows := h.toGrows.trans h'.toGrows
  text l s hl := by
    obtain ⟨s', hl'⟩ := h.text l s hl
    exact h'.text l s' hl'

/-- What a request comes to. Where the directory cannot be made, nothing more
happens; else the text is written in the tree with the directory, or cannot
be. -/
theorem store_cases (directory : FilePath) (name text : String) (t : FileTree) :
    (∃ u, t.createAll directory = (u, false) ∧ store directory name text t = (false, u)) ∨
      ∃ u, t.createAll directory = (u, true) ∧
        ((∃ e, u.write (Host.pathIn directory name) (.text text) = .error e ∧
            store directory name text t = (false, u)) ∨
          ∃ u', u.write (Host.pathIn directory name) (.text text) = .ok u' ∧
            store directory name text t = (true, u')) := by
  cases hmade : t.createAll directory with
  | mk u made =>
    cases made with
    | false => exact .inl ⟨u, rfl, by simp only [store, hmade]⟩
    | true =>
      refine .inr ⟨u, rfl, ?_⟩
      cases hwrite : u.write (Host.pathIn directory name) (.text text) with
      | error e => exact .inl ⟨e, rfl, by simp only [store, hmade, hwrite]⟩
      | ok u' => exact .inr ⟨u', rfl, by simp only [store, hmade, hwrite]⟩

/-- A request keeps directories and text files. -/
theorem keeps_store (directory : FilePath) (name text : String) (t : FileTree) :
    Keeps t (store directory name text t).2 := by
  have hextends := createAll_extends t directory
  have hmade : ∀ u, t.Extends u → Keeps t u := fun u hu => ⟨hu.toGrows, fun l s hl => ⟨s, hu.file hl⟩⟩
  rcases store_cases directory name text t with ⟨u, hu, hstore⟩ | ⟨u, hu, hrest⟩
  · rw [hu] at hextends
    rw [hstore]
    exact hmade u hextends
  · rw [hu] at hextends
    rcases hrest with ⟨e, -, hstore⟩ | ⟨u', hwrite, hstore⟩
    · rw [hstore]
      exact hmade u hextends
    · obtain ⟨l, -, hl, rfl⟩ := write_spec hwrite
      rw [hstore]
      refine (hmade u hextends).trans ⟨put_file_grows _ hl, fun k s hk => ?_⟩
      rw [node?_put]
      split
      · exact ⟨text, rfl⟩
      · exact ⟨s, hk⟩

/-- A tree that one request leads to. -/
def Stores (directory : FilePath) (t t' : FileTree) : Prop :=
  ∃ name text, t' = (store directory name text t).2

/-- A tree that requests lead to, none or more. -/
abbrev Later (directory : FilePath) : FileTree → FileTree → Prop :=
  Relation.ReflTransGen (Stores directory)

section

variable {directory : FilePath} {t final : FileTree}

theorem Later.keeps (h : Later directory t final) : Keeps t final := by
  induction h with
  | refl => exact .refl t
  | tail _ hlast ih =>
    obtain ⟨name, text, rfl⟩ := hlast
    exact ih.trans (keeps_store directory name text _)

/-- Where the directory could not be made, no request changes anything. -/
theorem Later.eq_of_failed (h : Later directory t final)
    (hfailed : t.createAll directory = (t, false)) : final = t := by
  induction h with
  | refl => rfl
  | tail _ hlast ih =>
    obtain ⟨name, text, rfl⟩ := hlast
    rw [ih, store]
    simp only [hfailed]

/-- Where the directory has been made, no request makes another one. -/
theorem Later.grows_back (h : Later directory t final)
    (hmade : t.createAll directory = (t, true)) : final.Grows t := by
  induction h with
  | refl => exact .refl t
  | @tail u final hbefore hlast ih =>
    obtain ⟨name, text, rfl⟩ := hlast
    have hthere : u.createAll directory = (u, true) :=
      createAll_of_grows hmade (Later.keeps hbefore).toGrows
    rcases store_cases directory name text u with ⟨v, hv, -⟩ | ⟨v, hv, hrest⟩
    · cases hthere.symm.trans hv
    · obtain ⟨rfl, -⟩ := Prod.mk.inj (hthere.symm.trans hv)
      rcases hrest with ⟨e, -, hstore⟩ | ⟨v', hwrite, hstore⟩
      · rw [hstore]
        exact ih
      · obtain ⟨l, -, -, rfl⟩ := write_spec hwrite
        rw [hstore]
        refine ⟨ih.here, fun k hk => ih.directory k ?_⟩
        -- A file is no directory, so the directory stands somewhere else.
        rw [node?_put] at hk
        split at hk
        · cases hk
        · exact hk

end

/-! ### The same request twice -/

/-- The trees of two runs at the same point, of which the first will end with
the final tree and the second has started with it. The second one has the
shape of the final tree. What its files hold is what they hold in the end, or
the text of a request that both runs have just made and that the first one
goes on to replace. -/
structure Replays (final first second : FileTree) : Prop where
  shape : final.SameShape second
  grows : first.Grows final
  nodes : ∀ l, second.node? l = final.node? l ∨
    ∃ s s', second.node? l = some (.file (.text s)) ∧ first.node? l = some (.file (.text s)) ∧
      final.node? l = some (.file (.text s'))

section

variable {directory : FilePath} {final first second : FileTree}

/-- What is read the same by the first run and in the end is read the same by
the second run. -/
theorem Replays.read? (h : Replays final first second) {p : FilePath}
    (hsame : final.read? p = first.read? p) : second.read? p = first.read? p := by
  ext s
  constructor
  · intro hread
    obtain ⟨l, hlocate, hl⟩ := read?_eq_some_iff.mp hread
    rw [h.shape.locate] at hlocate
    rcases h.nodes l with hnode | ⟨s₁, s', hsecond, hfirst, hfinal⟩
    · rw [← hsame]
      exact read?_eq_some_iff.mpr ⟨l, hlocate, hnode ▸ hl⟩
    · -- The first run comes to the same place, as it reads what is there in the end.
      have hend := read?_eq_some_iff.mpr ⟨l, hlocate, hfinal⟩
      obtain ⟨k, hk, -⟩ := read?_eq_some_iff.mp (hsame.symm.trans hend)
      obtain rfl := Except.ok.inj ((h.grows.locate hk).symm.trans hlocate)
      exact read?_eq_some_iff.mpr ⟨k, hk, hfirst.trans (hsecond.symm.trans hl)⟩
  · intro hread
    obtain ⟨k, hk, hfirst⟩ := read?_eq_some_iff.mp hread
    obtain ⟨l, hlocate, hfinal⟩ := read?_eq_some_iff.mp (hsame.trans hread)
    obtain rfl := Except.ok.inj ((h.grows.locate hk).symm.trans hlocate)
    refine read?_eq_some_iff.mpr ⟨k, (h.shape.locate p).trans hlocate, ?_⟩
    rcases h.nodes k with hnode | ⟨s₁, s', hsecond, hfirst', -⟩
    · exact hnode.trans hfinal
    · exact hsecond.trans (hfirst'.symm.trans hfirst)

/-- More directories in the first tree do not matter. -/
theorem Replays.extend (h : Replays final first second) {first' second' : FileTree}
    (hfirst : first.Extends first') (hsecond : second.Extends second')
    (hshape : final.SameShape second') (hgrows : first'.Grows final) :
    Replays final first' second' where
  shape := hshape
  grows := hgrows
  nodes l := by
    rw [hsecond.node?_of_sameShape (h.shape.symm.trans hshape)]
    rcases h.nodes l with hnode | ⟨s, s', hl, hl', hl''⟩
    · exact .inl hnode
    · exact .inr ⟨s, s', hl, hfirst.file hl', hl''⟩

/-- The directory cannot be made in either run, and the first run changes
nothing from then on. -/
theorem Replays.store_of_failed (h : Replays final first second) {u : FileTree}
    (hu : first.createAll directory = (u, false)) (hlater : Later directory u final)
    (name text : String) :
    ∃ v, store directory name text second = (false, v) ∧ Replays final u v := by
  have hfailed := createAll_again hu
  obtain rfl := hlater.eq_of_failed hfailed
  have hextends := createAll_extends first directory
  have hsecond := createAll_extends second directory
  obtain ⟨hshape, hmade⟩ := h.shape.createAll directory
  rw [hu] at hextends
  rw [hfailed] at hshape hmade
  refine ⟨(second.createAll directory).1, ?_, h.extend hextends hsecond hshape (.refl _)⟩
  rw [store, show second.createAll directory = (_, false) from Prod.ext rfl hmade]

/-- A text that is written in both runs at the same place, and that stays a
text in the first. -/
theorem Replays.put (h : Replays final first second) {l : Location} {text text' : String}
    (hgrows : (first.put l (.file (.text text))).Grows final)
    (hfinal : final.node? l = some (.file (.text text'))) :
    Replays final (first.put l (.file (.text text))) (second.put l (.file (.text text))) where
  shape := by
    refine ⟨h.shape.here, fun k => ?_⟩
    by_cases hk : k = l
    · subst hk
      rw [shape_eq_some_false.mpr ⟨_, hfinal⟩]
      exact shape_eq_some_false.mpr ⟨.text text, by rw [node?_put, if_pos rfl]⟩
    · have hshape := h.shape.shape k
      unfold FileTree.shape at hshape ⊢
      rw [node?_put, if_neg hk]
      exact hshape
  grows := hgrows
  nodes k := by
    rw [node?_put, node?_put]
    by_cases hk : k = l
    · subst hk
      rw [if_pos rfl, if_pos rfl]
      exact .inr ⟨text, text', rfl, rfl, hfinal⟩
    · rw [if_neg hk, if_neg hk]
      exact h.nodes k

/-- The directory is there in both runs before the request. The text is
written in both at the same place, or in neither. -/
theorem Replays.store_of_isThere (h : Replays final first second)
    (hthere : first.createAll directory = (first, true))
    (hthere' : second.createAll directory = (second, true)) (name text : String)
    (hlater : Later directory (store directory name text first).2 final) :
    (store directory name text second).1 = (store directory name text first).1 ∧
      Replays final (store directory name text first).2
        (store directory name text second).2 := by
  have hfrom : Later directory first final := .head ⟨name, text, rfl⟩ hlater
  have hforth := hfrom.keeps.toGrows
  have hback := hfrom.grows_back hthere
  -- The path leads to the same place in both, and to a directory in both or in neither.
  have hlocate : ∀ l, second.locate (Host.pathIn directory name) = .ok l ↔
      first.locate (Host.pathIn directory name) = .ok l := by
    intro l
    rw [h.shape.locate]
    exact ⟨hback.locate, hforth.locate⟩
  have hfree : ∀ l, second.node? l ≠ some .directory ↔ first.node? l ≠ some .directory := by
    intro l
    rw [Ne, h.shape.directory_iff]
    exact not_congr ⟨hback.directory l, hforth.directory l⟩
  cases hwrite : first.write (Host.pathIn directory name) (.text text) with
  | error e =>
    have hfirst : store directory name text first = (false, first) := by
      simp only [store, hthere, hwrite]
    cases hwrite' : second.write (Host.pathIn directory name) (.text text) with
    | error e' =>
      rw [hfirst, store, hthere']
      simp only [hwrite']
      exact ⟨trivial, h⟩
    | ok v =>
      obtain ⟨l, hl, hnode, -⟩ := write_spec hwrite'
      cases hwrite.symm.trans (write_of_locate ((hlocate l).mp hl) ((hfree l).mp hnode))
  | ok u =>
    obtain ⟨l, hl, hnode, rfl⟩ := write_spec hwrite
    have hwrite' : second.write (Host.pathIn directory name) (.text text) =
        .ok (second.put l (.file (.text text))) :=
      write_of_locate ((hlocate l).mpr hl) ((hfree l).mpr hnode)
    have hfirst : store directory name text first = (true, first.put l (.file (.text text))) := by
      simp only [store, hthere, hwrite]
    rw [hfirst] at hlater ⊢
    rw [store, hthere']
    simp only [hwrite']
    obtain ⟨text', hfinal⟩ := hlater.keeps.text l text (by rw [node?_put, if_pos rfl])
    exact ⟨trivial, h.put hlater.keeps.toGrows hfinal⟩

/-- The directory can be made in the first run, and is there in the second,
which starts where the first has ended. -/
theorem Replays.store_of_made (h : Replays final first second) {u : FileTree}
    (hu : first.createAll directory = (u, true)) (name text : String)
    (hlater : Later directory (store directory name text first).2 final) :
    (store directory name text second).1 = (store directory name text first).1 ∧
      Replays final (store directory name text first).2
        (store directory name text second).2 := by
  have hextends := createAll_extends first directory
  rw [hu] at hextends
  -- The request could as well have been made once the directory was there.
  have hagain : u.createAll directory = (u, true) := createAll_again hu
  have hsame : store directory name text u = store directory name text first := by
    rw [store, store, hu, hagain]
  have hfrom : Later directory u final := .head ⟨name, text, by rw [hsame]⟩ hlater
  have hforth := hfrom.keeps.toGrows
  have hsecond : second.createAll directory = (second, true) := by
    rcases isDirectory_of_createAll hu with hempty | hdirectory
    · exact createAll_of_empty hempty
    · refine createAll_of_isDirectory ?_
      rw [h.shape.isDirectory]
      exact hforth.isDirectory hdirectory
  have hreplays := h.extend hextends (.refl second) h.shape hforth
  rw [← hsame] at hlater ⊢
  exact hreplays.store_of_isThere hagain hsecond name text hlater

/-- The same request comes to the same in both runs. -/
theorem Replays.store (h : Replays final first second) (name text : String)
    (hlater : Later directory (Build.store directory name text first).2 final) :
    (Build.store directory name text second).1 = (Build.store directory name text first).1 ∧
      Replays final (Build.store directory name text first).2
        (Build.store directory name text second).2 := by
  cases hu : first.createAll directory with
  | mk u made =>
    cases made with
    | true => exact h.store_of_made hu name text hlater
    | false =>
      have hfirst : Build.store directory name text first = (false, u) := by
        rw [Build.store, hu]
      rw [hfirst] at hlater ⊢
      obtain ⟨v, hv, hreplays⟩ := h.store_of_failed hu hlater name text
      rw [hv]
      exact ⟨rfl, hreplays⟩

end

/-! ### Two runs -/

/-- What two runs have come to, which started in different worlds. -/
structure Retraced (final : FileTree) (start start' : World Unit) (p q : Progress Unit) : Prop where
  entries : q.entries = p.entries
  tree : Replays final p.world.tree q.world.tree
  console : ∃ lines, p.world.console = start.console ++ lines ∧
    q.world.console = start'.console ++ lines
  log : ∃ notes, p.world.log = start.log ++ notes ∧ q.world.log = start'.log ++ notes

/-- Two lists that have grown by the same go on to do so. -/
theorem exists_append {α : Type} {a a' b b' : List α} (more : List α)
    (h : ∃ xs, b = a ++ xs ∧ b' = a' ++ xs) :
    ∃ xs, b ++ more = a ++ xs ∧ b' ++ more = a' ++ xs := by
  obtain ⟨xs, rfl, rfl⟩ := h
  exact ⟨xs ++ more, List.append_assoc .., List.append_assoc ..⟩

/-- A run and its repetition in the tree that the first has left stay
together. -/
theorem lockstep_directory (b : Build) (directory : FilePath) (final : FileTree)
    (start start' : World Unit) :
    Lockstep b (.directory directory) (.directory directory)
      (fun x => x.Stands b final ∧ Later directory x.after final)
      (fun t => Later directory t final) (Retraced final start start') where
  print line h := ⟨h.entries, h.tree, exists_append [line] h.console, h.log⟩
  note level message h := ⟨h.entries, h.tree, h.console, exists_append [LogEntry.mk level message] h.log⟩
  plain _ h := ⟨congrArg (· ++ _) h.entries, h.tree, h.console, h.log⟩
  emit {es fs w v} c h hlater := by
    rw [emit_directory] at hlater ⊢
    rw [emit_directory]
    -- Both runs make the same request, and what they print and note goes by the answer alone.
    obtain ⟨hdone, htree⟩ := h.tree.store c.qualifiedName c.text hlater
    simp only at hdone htree ⊢
    rw [hdone]
    refine ⟨congrArg (· ++ _) h.entries, htree, exists_append _ h.console, exists_append _ h.log⟩
  before {w} c hlater := by
    rw [emit_directory] at hlater
    exact .head ⟨c.qualifiedName, c.text, rfl⟩ hlater
  ahead h := h.2
  reads {p q s} h hx := by
    have hread := h.tree.read? hx.1.text
    unfold items
    simp only [reading] at hread
    rw [hread]
  finds {p q x found} h hx hafter hitems m hm := by
    -- The file of a module is told by which of its candidates are files, and these stay.
    refine ModuleFile.locate?_congr fun path hpath => ?_
    have hmodules : m ∈ x.modules b := by
      rw [Reading.modules, hitems]
      exact hm
    rw [hafter] at hpath ⊢
    rw [h.tree.shape.isFile]
    exact hx.1.files m hmodules path hpath

/-! ### Whole runs -/

/-- Requests are all that a run does to its tree. -/
theorem later_preserved (directory : FilePath) (t : FileTree) :
    (Host.directory directory).Preserves fun w => Later directory t w.tree where
  print _ h := h
  note _ _ h := h
  emit {w} name text h := by
    refine h.tail ⟨name, text, ?_⟩
    show (Host.writeIn directory name text w).2.tree = _
    rw [writeIn_eq]
  report _ h := h

/-- A turn with a file on the stack leaves the tree as the visit does. -/
theorem tree_turn {σ : Type} (b : Build) (host : Host σ) {r : Run σ} {s : Source}
    {rest : List Source} (h : todo r = s :: rest) :
    match b.turn host r with
    | .ends _ last => last.tree = (b.reading host s r.world).after
    | .goesOn next => next.world.tree = (b.reading host s r.world).after := by
  unfold reading
  cases hv : b.visit host s r.world with
  | mk outcome w =>
    cases outcome with
    | ok v =>
      rw [turn_of_ok h hv]
      rfl
    | error f =>
      cases hr : r.atRoot with
      | true => rw [turn_of_root_error hr h hv]
      | false =>
        rw [turn_of_error hr h hv]
        rfl

/-- After a visit, requests alone lead to the end of the run. -/
theorem later_of_mem_readings {b : Build} {directory : FilePath} {budget : Nat} {r : Run Unit}
    {result : Except Failure Report} {after : World Unit}
    (h : b.takeTurns (.directory directory) budget r = .finished result after) :
    ∀ x ∈ b.readings (.directory directory) budget r, Later directory x.after after.tree := by
  induction budget generalizing r with
  | zero => cases h
  | succ budget ih =>
    cases htodo : todo r with
    | nil =>
      rw [readings_of_todo_eq_nil htodo]
      exact List.forall_mem_nil _
    | cons s rest =>
      have htree := tree_turn b (.directory directory) htodo
      have hback : r.pending.back? = some s := by rw [back?_eq_head?_todo, htodo]; rfl
      simp only [readings, hback]
      unfold takeTurns at h
      cases hturn : b.turn (.directory directory) r with
      | ends result' last =>
        rw [hturn] at h htree
        cases h
        refine List.forall_mem_cons.mpr ⟨?_, List.forall_mem_nil _⟩
        rw [← htree]
      | goesOn next =>
        -- The turns that follow make requests only, so they keep the tree on its way.
        rw [hturn] at h htree
        refine List.forall_mem_cons.mpr ⟨?_, ih h⟩
        rw [← htree]
        exact (later_preserved directory next.world.tree).takeTurns b .refl h

/-- A run that has come to an end is run again, in the tree that it has left.
If all files that it read and all paths that it tried are there as they
were, the second run ends alike: the same report, or the same failure, and
the same lines and notes. All that stands in the tree stays. -/
theorem run_again (b : Build) (fromEnvironment : Option FilePath) (budget : Nat)
    {w after : World Unit} {result : Except Failure Report}
    (hrun : b.run fromEnvironment budget w = .finished result after)
    (hstands : ∀ directory, b.directory.or fromEnvironment = some directory →
      ∀ x ∈ b.readings (.directory directory) budget (b.begin w), x.Stands b after.tree)
    (w' : World Unit) (hw' : w'.tree = after.tree) :
    ∃ after', b.run fromEnvironment budget w' = .finished result after' ∧
      (∃ lines, after.console = w.console ++ lines ∧ after'.console = w'.console ++ lines) ∧
      (∃ notes, after.log = w.log ++ notes ∧ after'.log = w'.log ++ notes) ∧
      after'.tree.here = after.tree.here ∧
      ∀ l, after'.tree.node? l = after.tree.node? l := by
  unfold run at hrun ⊢
  cases hdirectory : b.directory.or fromEnvironment with
  | none =>
    rw [hdirectory] at hrun
    cases hrun
    exact ⟨w', rfl, ⟨[], by simp⟩, ⟨[], by simp⟩, congrArg FileTree.here hw', fun l => by rw [hw']⟩
  | some directory =>
    rw [hdirectory] at hrun
    simp only at hrun ⊢
    have hlater := later_of_mem_readings hrun
    have hfrom : Later directory w.tree after.tree :=
      (later_preserved directory w.tree).runWith b .refl hrun
    have hstart : Retraced after.tree w w' ⟨[], w⟩ ⟨[], w'⟩ := by
      refine ⟨rfl, ⟨?_, hfrom.keeps.toGrows, fun l => .inl ?_⟩, ⟨[], ?_⟩, ⟨[], ?_⟩⟩
      · rw [hw']
        exact .refl _
      · rw [hw']
      · simp
      · simp
    have halike := (lockstep_directory b directory after.tree w w').runWith budget hstart
      fun x hx => ⟨hstands directory hdirectory x hx, hlater x hx⟩
    have hsame : ∀ {p q : Progress Unit}, Retraced after.tree w w' p q →
        p.world.tree = after.tree → ∀ l, q.world.tree.node? l = after.tree.node? l := by
      intro p q h hp l
      rcases h.tree.nodes l with hnode | ⟨s, s', hsecond, hfirst, -⟩
      · exact hnode
      · rw [hsecond, ← hfirst, hp]
    rw [hrun] at halike
    generalize b.runWith (.directory directory) budget w' = again at halike ⊢
    cases halike with
    | failed h => exact ⟨_, rfl, h.console, h.log, h.tree.shape.here, hsame h rfl⟩
    | @reported es fs v v' h =>
      obtain rfl : fs = es := h.entries
      exact ⟨_, rfl, h.console, exists_append [LogEntry.mk .info (Report.message ⟨fs⟩)] h.log,
        h.tree.shape.here, hsame h rfl⟩

/-- A library with two enums of one name, and with a third one at the place of
whose companion a directory stands. -/
def repeatedName : FileTree where
  here := ["work", "here"]
  nodes :=
    [([], .directory), (["work"], .directory), (["work", "here"], .directory),
      (["work", "here", "src"], .directory),
      (["work", "here", "src", "lib.rs"],
        .file (.text "#[companion] enum A \x7b X \x7d #[companion] enum A \x7b Y \x7d
          #[companion] enum B \x7b Z \x7d")),
      (["work", "here", "out"], .directory),
      (["work", "here", "out", "crate.B_.rs"], .directory)]

/-- The first companion is overwritten in both runs, and the last one fails in
both. -/
theorem repeatedName_run_again :
    let b : Build := { directory := some ⟨"out"⟩ }
    let report : Report :=
      ⟨[.generated ⟨"out/crate.A_.rs"⟩, .generated ⟨"out/crate.A_.rs"⟩,
        .failed (.emission "crate.B_")]⟩
    ∃ after after',
      b.run none 3 (.fresh repeatedName ()) = .finished (.ok report) after ∧
      (∀ x ∈ b.readings (.directory ⟨"out"⟩) 3 (b.begin (.fresh repeatedName ())),
        x.Stands b after.tree) ∧
      b.run none 3 (.fresh after.tree ()) = .finished (.ok report) after' ∧
      after'.console = after.console ∧
      ∀ l, after'.tree.node? l = after.tree.node? l := by
  intro b report
  have hdecide : (match b.run none 3 (.fresh repeatedName ()) with
      | .finished (.ok found) after => decide (found = report ∧
        ∀ x ∈ b.readings (.directory ⟨"out"⟩) 3 (b.begin (.fresh repeatedName ())),
          x.Stands b after.tree)
      | .finished (.error _) _ => false
      | .exhausted => false) = true := by
    decide +kernel
  cases hrun : b.run none 3 (.fresh repeatedName ()) with
  | exhausted => rw [hrun] at hdecide; cases hdecide
  | finished result after =>
    rw [hrun] at hdecide
    cases result with
    | error f => cases hdecide
    | ok found =>
      obtain ⟨rfl, hstands⟩ := of_decide_eq_true hdecide
      obtain ⟨after', hagain, ⟨lines, hlines, hlines'⟩, -, -, hnodes⟩ :=
        run_again b none 3 hrun (fun directory hdirectory => Option.some.inj hdirectory ▸ hstands)
          (.fresh after.tree ()) rfl
      exact ⟨after, after', rfl, hstands, hagain, hlines'.trans hlines.symm, hnodes⟩

end Build

end EnumCompanion
