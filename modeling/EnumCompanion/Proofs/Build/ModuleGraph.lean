import EnumCompanion.Proofs.Build.Account
import EnumCompanion.Proofs.Build.Invariant
import Mathlib.Data.Set.Finite.List
import Mathlib.Logic.Relation

/-!
# `EnumCompanion.Proofs.Build.ModuleGraph`: which file leads to which

A file declares modules, and a module may have a file of its own. As long
as nobody touches the sources, where the modules of a file are is a matter
of the tree alone, and a run walks along the relation `Declares`.

* `spots_ofItems`: where the file of a module is looked for does not depend
  on the path that the module has.
* `Host.Keeps`: a property of trees that a host does not spoil.
  `Keeps.after_visit` and `Keeps.walk` say that then a run does not spoil it.
* `SameSources`: what all trees of a run have in common when the host
  leaves the sources alone.
* `finite_reaches`: only finitely many paths are reached from the root, as
  no path that leads to a file is longer than `FileTree.pathLimit`.
* `exists_walk_below`: a walk that ends has walked from everything that its
  file leads to, each time with less depth.
-/

set_option autoImplicit false

namespace EnumCompanion

/-! ### Where modules are looked for -/

/-- What decides where the file of a module is: all but the path of the
module. -/
def ModuleFile.spot (m : ModuleFile) : List String × String × Option String :=
  (m.around, m.name, m.path)

theorem ModuleFile.candidates_of_spot {m m' : ModuleFile} (h : m.spot = m'.spot)
    (file : FilePath) : m.candidates file = m'.candidates file := by
  simp only [ModuleFile.spot, Prod.mk.injEq] at h
  obtain ⟨haround, hname, hpath⟩ := h
  simp only [ModuleFile.candidates, haround, hname, hpath]

theorem ModuleFile.locate?_of_spot {m m' : ModuleFile} (h : m.spot = m'.spot) (tree : FileTree)
    (file : FilePath) : m.locate? tree file = m'.locate? tree file := by
  rw [ModuleFile.locate?, ModuleFile.candidates_of_spot h, ModuleFile.locate?]

namespace Scan

mutual

theorem spots_ofItem (marker marker' scope scope' : String) (around : List String) :
    ∀ item : Item, (ofItem marker scope around item).modules.map ModuleFile.spot
      = (ofItem marker' scope' around item).modules.map ModuleFile.spot
  | .inlineModule _ name _ items =>
    spots_ofItems marker marker' (inner scope name.name) (inner scope' name.name)
      (around ++ [name.name]) items
  | .leaf _ form _ _ => by cases form <;> rfl
  | .verbatim _ => rfl

/-- Neither the marker nor the path of the outer module matters for where
modules are looked for. -/
theorem spots_ofItems (marker marker' scope scope' : String) (around : List String) :
    ∀ items : List Item, (ofItems marker scope around items).modules.map ModuleFile.spot
      = (ofItems marker' scope' around items).modules.map ModuleFile.spot
  | [] => rfl
  | item :: rest => by
    simp only [ofItems, append, List.map_append]
    rw [spots_ofItem marker marker' scope scope' around item,
      spots_ofItems marker marker' scope scope' around rest]

end

theorem spots_file (marker marker' scope scope' : String) (items : List Item) :
    (file marker scope items).modules.map ModuleFile.spot
      = (file marker' scope' items).modules.map ModuleFile.spot :=
  spots_ofItems marker marker' scope scope' [] items

end Scan

/-! ### Short paths -/

theorem finite_utf8ByteSize_le (n : Nat) : {s : String | s.utf8ByteSize ≤ n}.Finite := by
  -- A text is determined by its bytes, and lists of bytes of bounded length are finitely many.
  have hbytes : Finite UInt8 := Finite.of_injective UInt8.toFin fun _ _ => UInt8.toFin_inj.mp
  have hinj : Function.Injective fun s : String => s.toByteArray.data.toList := by
    intro s t h
    exact String.toByteArray_inj.mp (ByteArray.ext (Array.toList_inj.mp h))
  exact (List.finite_length_le UInt8 n).preimage hinj.injOn

namespace FileTree

/-- A path that leads to a file is not too long. -/
theorem utf8ByteSize_le_of_isFile {t : FileTree} {p : FilePath} (h : t.isFile p = true) :
    p.text.utf8ByteSize ≤ pathLimit := by
  by_contra hlong
  have hstart : ∃ o, t.start p = .error o := by
    unfold start
    split
    · exact ⟨_, rfl⟩
    · exact ⟨.inTheWay, by simp [Nat.lt_of_not_le hlong]⟩
  obtain ⟨o, hstart⟩ := hstart
  have hlocate : t.locate p = .error o := by
    rw [locate, hstart]
    rfl
  simp [isFile, at?, hlocate] at h

theorem finite_isFile (t : FileTree) : {p : FilePath | t.isFile p = true}.Finite := by
  have htext : Function.Injective FilePath.text := by
    rintro ⟨s⟩ ⟨s'⟩ rfl
    rfl
  refine ((finite_utf8ByteSize_le pathLimit).preimage htext.injOn).subset ?_
  intro p hp
  exact utf8ByteSize_le_of_isFile hp

end FileTree

/-! ### What a host does not spoil -/

/-- The host does not spoil a property of trees. -/
structure Host.Keeps {σ : Type} (host : Host σ) (P : FileTree → Prop) : Prop where
  emit : ∀ name text w, P w.tree → P (host.emit name text w).2.tree
  report : ∀ message w, P w.tree → P (host.report message w).tree

/-- A recorder does not touch the tree. -/
theorem Host.recorder_keeps (fragments : List String) (P : FileTree → Prop) :
    (Host.recorder fragments).Keeps P where
  emit name text w h := by
    show P (Host.recorder fragments |>.emit name text w).2.tree
    simp only [Host.recorder]
    split <;> exact h
  report _ _ h := h

namespace Host.Keeps

open Build

variable {σ : Type} {host : Host σ} {P : FileTree → Prop}

/-- Only the host touches the tree, so what it does not spoil is kept. -/
theorem preserves (hhost : host.Keeps P) : host.Preserves fun w => P w.tree where
  print _ h := h
  note _ _ h := h
  emit name text h := hhost.emit name text _ h
  report message h := hhost.report message _ h

theorem after_visit (hhost : host.Keeps P) {b : Build} {s : Source} {w after : World σ}
    {outcome : Except Failure Visit} (hv : b.visit host s w = (outcome, after)) (h : P w.tree) :
    P after.tree := by
  have hvisit := hhost.preserves.visit b s h
  rwa [hv] at hvisit

theorem inTurn {walk : Source → World σ → Option (Walk σ)} {ss : List Source}
    (hwalk : ∀ s ∈ ss, ∀ w all, P w.tree → walk s w = some all → P all.world.tree) {w : World σ}
    (h : P w.tree) {all : Walk σ} (hall : inTurn walk ss w = some all) : P all.world.tree := by
  induction ss generalizing w all with
  | nil =>
    cases hall
    exact h
  | cons s ss ih =>
    rw [inTurn_cons] at hall
    obtain ⟨first, hfirst, hall⟩ := Option.bind_eq_some_iff.mp hall
    obtain ⟨others, hothers, rfl⟩ := Option.map_eq_some_iff.mp hall
    have hothers' : P others.world.tree :=
      ih (fun s' hs' => hwalk s' (List.mem_cons_of_mem _ hs'))
        (hwalk s List.mem_cons_self w first h hfirst) hothers
    exact hothers'

theorem walk (hhost : host.Keeps P) (b : Build) {depth : Nat} {s : Source} {w : World σ}
    (h : P w.tree) {all : Walk σ} (hall : b.walk host depth s w = some all) :
    P all.world.tree := by
  induction depth generalizing s w all with
  | zero => simp [Build.walk] at hall
  | succ depth ih =>
    cases hv : b.visit host s w with
    | mk outcome after =>
      have hafter := hhost.after_visit hv h
      cases outcome with
      | error f =>
        rw [walk_succ_of_error hv] at hall
        cases hall
        exact hafter
      | ok v =>
        rw [walk_succ_of_ok hv] at hall
        obtain ⟨below, hbelow, rfl⟩ := Option.map_eq_some_iff.mp hall
        have hbelow' : P below.world.tree :=
          inTurn (fun _ _ _ _ hw hs => ih hw hs) hafter hbelow
        exact hbelow'

end Host.Keeps

namespace Build

variable {σ : Type}

/-! ### The relation -/

/-- The modules with files of their own that a file declares; none if it
cannot be read. -/
def declared (b : Build) (t : FileTree) (p : FilePath) : List ModuleFile :=
  match items t p with
  | .error _ => []
  | .ok found => (Scan.file b.marker b.scope found).modules

/-- A file declares a module that is in the other file. -/
def Declares (b : Build) (t : FileTree) (p q : FilePath) : Prop :=
  ∃ m ∈ b.declared t p, m.locate? t p = some q

/-- The root leads to a file, through any number of others. -/
def Reaches (b : Build) (t : FileTree) (p : FilePath) : Prop :=
  Relation.ReflTransGen (b.Declares t) b.root p

theorem isFile_of_locate? {m : ModuleFile} {t : FileTree} {p q : FilePath}
    (h : m.locate? t p = some q) : t.isFile q = true :=
  List.find?_some h

theorem Declares.isFile {b : Build} {t : FileTree} {p q : FilePath} (h : b.Declares t p q) :
    t.isFile q = true := by
  obtain ⟨_, _, hq⟩ := h
  exact isFile_of_locate? hq

/-- Only finitely many paths are reached. -/
theorem finite_reaches (b : Build) (t : FileTree) : {p | b.Reaches t p}.Finite := by
  refine ((t.finite_isFile).insert b.root).subset ?_
  intro p hp
  obtain rfl | ⟨q, _, hqp⟩ := Relation.ReflTransGen.cases_tail hp
  · exact Set.mem_insert _ _
  · exact Set.mem_insert_of_mem _ hqp.isFile

/-! ### Trees with the same sources -/

/-- A tree that has, as far as the root leads, the same sources as another:
the files hold the same items, and modules are in the same files. -/
structure SameSources (b : Build) (t t' : FileTree) : Prop where
  items : ∀ p, b.Reaches t p → items t' p = items t p
  files : ∀ p, b.Reaches t p → ∀ m ∈ b.declared t p, m.locate? t' p = m.locate? t p

theorem SameSources.refl (b : Build) (t : FileTree) : b.SameSources t t :=
  ⟨fun _ _ => rfl, fun _ _ _ _ => rfl⟩

/-- While the sources are the same, the visit of a file leads to the files
that it declares. -/
theorem exists_next_iff {b : Build} {host : Host σ} {t : FileTree}
    (hhost : host.Keeps (b.SameSources t)) {s : Source} {w after : World σ} {v : Visit}
    (hs : b.Reaches t s.path) (hw : b.SameSources t w.tree)
    (hv : b.visit host s w = (.ok v, after)) (q : FilePath) :
    (∃ s' ∈ v.next, s'.path = q) ↔ b.Declares t s.path q := by
  obtain ⟨found, _, hitems, _, _, hnext, _⟩ := visit_of_ok hv
  have hafter : b.SameSources t after.tree := hhost.after_visit hv hw
  have hdeclared : b.declared t s.path = (Scan.file b.marker b.scope found).modules := by
    rw [declared, ← hw.items s.path hs, hitems]
  have hspots := Scan.spots_file b.marker b.marker s.scope b.scope found
  rw [← hdeclared] at hspots
  have hmem : (∃ s' ∈ v.next, s'.path = q) ↔
      ∃ m ∈ (Scan.file b.marker s.scope found).modules, m.locate? after.tree s.path = some q := by
    simp only [hnext, located, List.mem_filterMap, Option.map_eq_some_iff]
    constructor
    · rintro ⟨_, ⟨m, hm, p, hp, rfl⟩, rfl⟩
      exact ⟨m, hm, hp⟩
    · rintro ⟨m, hm, hq⟩
      exact ⟨_, ⟨m, hm, q, hq, rfl⟩, rfl⟩
  rw [hmem]
  constructor
  · rintro ⟨m, hm, hq⟩
    -- The same module as it is seen from the root's module path.
    obtain ⟨m', hm', hspot⟩ := List.mem_map.mp (hspots ▸ List.mem_map_of_mem hm)
    refine ⟨m', hm', ?_⟩
    rw [← hafter.files _ hs m' hm', ModuleFile.locate?_of_spot hspot, hq]
  · rintro ⟨m, hm, hq⟩
    obtain ⟨m', hm', hspot⟩ := List.mem_map.mp (hspots.symm ▸ List.mem_map_of_mem hm)
    refine ⟨m', hm', ?_⟩
    rw [ModuleFile.locate?_of_spot hspot, hafter.files _ hs m hm, hq]

/-! ### Walks along the relation -/

theorem walk_le {b : Build} {host : Host σ} {depth deeper : Nat} (hle : depth ≤ deeper)
    {s : Source} {w : World σ} {all : Walk σ} (h : b.walk host depth s w = some all) :
    b.walk host deeper s w = some all := by
  induction hle with
  | refl => exact h
  | step _ ih => exact walk_succ ih

/-- A walk from each of some files has walked from any one of them, in a
world with the same sources. -/
theorem exists_of_inTurn {P : FileTree → Prop} {walk : Source → World σ → Option (Walk σ)}
    (hwalk : ∀ s w all, P w.tree → walk s w = some all → P all.world.tree) {ss : List Source}
    {w : World σ} {all : Walk σ} (hw : P w.tree) (h : inTurn walk ss w = some all) {s : Source}
    (hs : s ∈ ss) :
    ∃ w' all', P w'.tree ∧ walk s w' = some all' ∧ all'.stops ⊆ all.stops := by
  induction ss generalizing w all with
  | nil => cases hs
  | cons s' ss ih =>
    rw [inTurn_cons] at h
    obtain ⟨first, hfirst, h⟩ := Option.bind_eq_some_iff.mp h
    obtain ⟨others, hothers, rfl⟩ := Option.map_eq_some_iff.mp h
    obtain rfl | hs := List.mem_cons.mp hs
    · exact ⟨w, first, hw, hfirst, List.subset_append_left _ _⟩
    · obtain ⟨w', all', hw', hall', hstops⟩ := ih (hwalk s' w first hw hfirst) hothers hs
      exact ⟨w', all', hw', hall', List.subset_append_of_subset_right _ hstops⟩

/-- A walk from a file stops there. -/
theorem exists_stop_of_walk {b : Build} {host : Host σ} {depth : Nat} {s : Source} {w : World σ}
    {all : Walk σ} (h : b.walk host depth s w = some all) : ∃ k ∈ all.stops, k.source = s := by
  cases depth with
  | zero => simp [walk] at h
  | succ depth =>
    refine ⟨b.stop s w, ?_, rfl⟩
    cases hv : b.visit host s w with
    | mk outcome after =>
      cases outcome with
      | error f =>
        rw [walk_succ_of_error hv] at h
        cases h
        exact List.mem_cons_self
      | ok v =>
        rw [walk_succ_of_ok hv] at h
        obtain ⟨below, _, rfl⟩ := Option.map_eq_some_iff.mp h
        exact List.mem_append_left _ List.mem_cons_self

/-- A walk has walked from each file that its own file declares, and less
deep. -/
theorem exists_walk_of_declares {b : Build} {host : Host σ} {t : FileTree}
    (hhost : host.Keeps (b.SameSources t)) {depth : Nat} {s : Source} {w : World σ} {all : Walk σ}
    (hs : b.Reaches t s.path) (hw : b.SameSources t w.tree)
    (h : b.walk host depth s w = some all) {q : FilePath} (hq : b.Declares t s.path q) :
    ∃ less < depth, ∃ s' w' all', s'.path = q ∧ b.SameSources t w'.tree ∧
      b.walk host less s' w' = some all' ∧ all'.stops ⊆ all.stops := by
  cases depth with
  | zero => simp [walk] at h
  | succ depth =>
    cases hv : b.visit host s w with
    | mk outcome after =>
      cases outcome with
      | error f =>
        -- A file that cannot be read declares nothing.
        obtain ⟨hitems, -, -⟩ := visit_of_error hv
        obtain ⟨m, hm, _⟩ := hq
        rw [declared, ← hw.items _ hs, hitems] at hm
        cases hm
      | ok v =>
        rw [walk_succ_of_ok hv] at h
        obtain ⟨below, hbelow, rfl⟩ := Option.map_eq_some_iff.mp h
        obtain ⟨s', hs', hpath⟩ := (exists_next_iff hhost hs hw hv q).mpr hq
        have hafter : b.SameSources t after.tree := hhost.after_visit hv hw
        obtain ⟨w', all', hw', hall', hstops⟩ := exists_of_inTurn
          (fun _ _ _ hw hwalk => hhost.walk b hw hwalk) hafter hbelow hs'
        exact ⟨depth, Nat.lt_succ_self depth, s', w', all', hpath, hw', hall',
          List.subset_append_of_subset_right _ hstops⟩

/-- A walk has walked from each file that its own file leads to through
others, and less deep. -/
theorem exists_walk_below {b : Build} {host : Host σ} {t : FileTree}
    (hhost : host.Keeps (b.SameSources t)) {depth : Nat} {s : Source} {w : World σ} {all : Walk σ}
    (hs : b.Reaches t s.path) (hw : b.SameSources t w.tree)
    (h : b.walk host depth s w = some all) {q : FilePath}
    (hq : Relation.TransGen (b.Declares t) s.path q) :
    ∃ less < depth, ∃ s' w' all', s'.path = q ∧ b.SameSources t w'.tree ∧
      b.walk host less s' w' = some all' ∧ all'.stops ⊆ all.stops := by
  induction hq with
  | single hq => exact exists_walk_of_declares hhost hs hw h hq
  | tail hp hpq ih =>
    obtain ⟨less, hless, s', w', all', hpath, hw', hall', hstops⟩ := ih
    have hs' : b.Reaches t s'.path := hpath ▸ Relation.ReflTransGen.trans hs hp.to_reflTransGen
    obtain ⟨least, hleast, s'', w'', all'', hpath', hw'', hall'', hstops'⟩ :=
      exists_walk_of_declares hhost hs' hw' hall' (hpath ▸ hpq)
    exact ⟨least, hleast.trans hless, s'', w'', all'', hpath', hw'', hall'',
      List.Subset.trans hstops' hstops⟩

end Build

end EnumCompanion
