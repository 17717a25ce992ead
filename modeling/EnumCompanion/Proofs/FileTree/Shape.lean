import EnumCompanion.Proofs.FileTree.Directories

/-!
# `EnumCompanion.Proofs.FileTree.Shape`: trees that differ in texts only

Two trees have the same shape if directories and files stand at the same
places. What files hold is not asked.

* `SameShape.locate`: all paths lead to the same places in both.
* `SameShape.isDirectory` and `SameShape.isFile`: they lead to directories
  and to files in the same cases.
* `SameShape.createAll`: making a directory comes to the same in both, and
  leaves trees of the same shape.
-/

set_option autoImplicit false

namespace EnumCompanion

namespace FileTree

/-! ### Trees of the same shape -/

/-- Whether a directory stands at a location, if anything does. -/
def shape (t : FileTree) (l : Location) : Option Bool :=
  (t.node? l).map (· == .directory)

/-- Trees with directories at the same places, and files at the same places. -/
structure SameShape (t t' : FileTree) : Prop where
  here : t'.here = t.here
  shape : ∀ l, t'.shape l = t.shape l

theorem shape_eq_some_true {t : FileTree} {l : Location} :
    t.shape l = some true ↔ t.node? l = some .directory := by
  simp [shape]

theorem shape_eq_none {t : FileTree} {l : Location} : t.shape l = none ↔ t.node? l = none := by
  simp [shape]

theorem shape_eq_some_false {t : FileTree} {l : Location} :
    t.shape l = some false ↔ ∃ content, t.node? l = some (.file content) := by
  unfold shape
  cases t.node? l with
  | none => simp
  | some n => cases n <;> simp

namespace SameShape

variable {t t' t'' : FileTree}

theorem refl (t : FileTree) : t.SameShape t :=
  ⟨rfl, fun _ => rfl⟩

theorem symm (h : t.SameShape t') : t'.SameShape t :=
  ⟨h.here.symm, fun l => (h.shape l).symm⟩

theorem trans (h : t.SameShape t') (h' : t'.SameShape t'') : t.SameShape t'' :=
  ⟨h'.here.trans h.here, fun l => (h'.shape l).trans (h.shape l)⟩

theorem directory_iff (h : t.SameShape t') (l : Location) :
    t'.node? l = some .directory ↔ t.node? l = some .directory := by
  rw [← shape_eq_some_true, ← shape_eq_some_true, h.shape]

theorem isSome_node? (h : t.SameShape t') (l : Location) :
    (t'.node? l).isSome = (t.node? l).isSome := by
  have hl := congrArg Option.isSome (h.shape l)
  simpa only [FileTree.shape, Option.isSome_map] using hl

/-- The same nodes at all places, but for what files hold. -/
theorem put (h : t.SameShape t') (l : Location) {n n' : Node}
    (hn : (n' == .directory) = (n == .directory)) : (t.put l n).SameShape (t'.put l n') where
  here := h.here
  shape k := by
    have hk := h.shape k
    unfold FileTree.shape at hk ⊢
    rw [node?_put, node?_put]
    split
    · simp [hn]
    · exact hk

/-! ### Ways in trees of the same shape -/

theorem enter (h : t.SameShape t') : t'.enter = t.enter := by
  funext l part
  have hl := h.shape l
  unfold FileTree.enter
  unfold FileTree.shape at hl
  cases hn : t.node? l with
  | none =>
    rw [hn] at hl
    rw [Option.map_eq_none_iff.mp hl]
  | some n =>
    rw [hn] at hl
    obtain ⟨n', hn', heq⟩ := Option.map_eq_some_iff.mp hl
    rw [hn']
    cases n <;> cases n' <;> first | rfl | cases heq

theorem follow (h : t.SameShape t') : t'.follow = t.follow := by
  funext l parts
  unfold FileTree.follow
  rw [h.enter]

theorem start (h : t.SameShape t') (p : FilePath) : t'.start p = t.start p := by
  unfold FileTree.start
  rw [h.here]

theorem locate (h : t.SameShape t') (p : FilePath) : t'.locate p = t.locate p := by
  unfold FileTree.locate
  rw [h.start, h.follow]

theorem isDirectory (h : t.SameShape t') (p : FilePath) :
    t'.isDirectory p = t.isDirectory p := by
  rw [Bool.eq_iff_iff, isDirectory_iff, isDirectory_iff, h.locate]
  simp only [h.directory_iff]

theorem isFile (h : t.SameShape t') (p : FilePath) : t'.isFile p = t.isFile p := by
  have hfile : ∀ u : FileTree, u.isFile p = true ↔
      ∃ l, u.locate p = .ok l ∧ u.shape l = some false := by
    intro u
    unfold FileTree.isFile at?
    cases u.locate p with
    | error e => simp
    | ok l =>
      simp only [shape_eq_some_false, Except.ok.injEq, exists_eq_left']
      cases u.node? l with
      | none => simp
      | some n => cases n <;> simp
  rw [Bool.eq_iff_iff, hfile, hfile, h.locate]
  simp only [h.shape]

/-! ### Making directories in trees of the same shape -/

theorem vacancy (h : t.SameShape t') (p : FilePath) : t'.vacancy p = t.vacancy p := by
  unfold FileTree.vacancy
  rw [h.start, h.follow]
  simp only [h.isSome_node?]

/-- A directory that is made in one tree is made in the other, at the same
place. -/
theorem makeDirectory_ok (h : t.SameShape t') {p : FilePath} {u : FileTree}
    (hu : t.makeDirectory p = .ok u) : ∃ u', t'.makeDirectory p = .ok u' ∧ u.SameShape u' := by
  rw [makeDirectory_eq] at hu ⊢
  rw [h.vacancy]
  cases hvacancy : t.vacancy p with
  | error e => rw [hvacancy] at hu; cases hu
  | ok l =>
    rw [hvacancy] at hu
    obtain rfl := Except.ok.inj hu
    exact ⟨_, rfl, h.put l rfl⟩

theorem makeDirectory_error (h : t.SameShape t') {p : FilePath} {e : Obstacle}
    (he : t.makeDirectory p = .error e) : t'.makeDirectory p = .error e := by
  rw [makeDirectory_eq] at he ⊢
  rw [h.vacancy]
  cases hvacancy : t.vacancy p with
  | error e' => rw [hvacancy] at he; exact he
  | ok l => rw [hvacancy] at he; cases he

theorem ensure (h : t.SameShape t') (p : FilePath) :
    (t.ensure p).1.SameShape (t'.ensure p).1 ∧ (t'.ensure p).2 = (t.ensure p).2 := by
  unfold FileTree.ensure
  cases hmake : t.makeDirectory p with
  | error e =>
    rw [h.makeDirectory_error hmake]
    exact ⟨h, h.isDirectory p⟩
  | ok u =>
    obtain ⟨u', hmake', hshape⟩ := h.makeDirectory_ok hmake
    rw [hmake']
    exact ⟨hshape, rfl⟩

/-- Making a directory with those above it comes to the same in both trees. -/
theorem createAll (h : t.SameShape t') (p : FilePath) :
    (t.createAll p).1.SameShape (t'.createAll p).1 ∧
      (t'.createAll p).2 = (t.createAll p).2 := by
  fun_induction FileTree.createAll t p with
  | case1 p hempty =>
    rw [createAll_of_empty hempty]
    exact ⟨h, rfl⟩
  | case2 p hne u hmake =>
    obtain ⟨u', hmake', hshape⟩ := h.makeDirectory_ok hmake
    rw [createAll_of_ok hne hmake']
    exact ⟨hshape, rfl⟩
  | case3 p hne hmake =>
    rw [createAll_of_inTheWay hne (h.makeDirectory_error hmake)]
    exact ⟨h, h.isDirectory p⟩
  | case4 p hne hmake hparent =>
    rw [createAll_of_orphan hne (h.makeDirectory_error hmake) hparent]
    exact ⟨h, rfl⟩
  | case5 p hne hmake q hparent u hq ih =>
    rw [hq] at ih
    obtain ⟨hshape, hthere⟩ := ih
    -- The parent is there in both trees, and the last step is taken in both.
    rw [createAll_of_parent hne (h.makeDirectory_error hmake) hparent rfl, hthere]
    exact hshape.ensure p
  | case6 p hne hmake q hparent u hq ih =>
    rw [hq] at ih
    obtain ⟨hshape, hthere⟩ := ih
    rw [createAll_of_parent hne (h.makeDirectory_error hmake) hparent rfl, hthere]
    exact ⟨hshape, rfl⟩

end SameShape

/-! ### Texts -/

section

variable {t t' : FileTree} {p : FilePath} {l : Location} {content : Content}

theorem content?_eq_some : t.content? l = some content ↔ t.node? l = some (.file content) := by
  unfold content?
  cases t.node? l with
  | none => simp
  | some n => cases n <;> simp

/-- A file stays as it is when directories are made. -/
theorem Extends.file (h : t.Extends t') (hl : t.node? l = some (.file content)) :
    t'.node? l = some (.file content) := by
  rw [← content?_eq_some] at hl ⊢
  rw [h.content, hl]

/-- Making directories that leave the shape as it is leaves all nodes. -/
theorem Extends.node?_of_sameShape (h : t.Extends t') (hshape : t.SameShape t') (l : Location) :
    t'.node? l = t.node? l := by
  cases hl : t.node? l with
  | none => rw [← shape_eq_none, hshape.shape, shape_eq_none, hl]
  | some n =>
    cases n with
    | directory => exact h.directory l hl
    | file content => exact h.file hl

theorem read?_eq_some_iff {s : String} :
    t.read? p = some s ↔ ∃ l, t.locate p = .ok l ∧ t.node? l = some (.file (.text s)) := by
  unfold read? at?
  cases t.locate p with
  | error e => simp
  | ok l =>
    simp only [Except.ok.injEq, exists_eq_left']
    cases t.node? l with
    | none => simp
    | some n =>
      cases n with
      | directory => simp
      | file content => cases content <;> simp

/-- A text is written wherever a path leads to no directory. -/
theorem write_of_locate (hlocate : t.locate p = .ok l) (hl : t.node? l ≠ some .directory) :
    t.write p content = .ok (t.put l (.file content)) := by
  unfold write
  rw [hlocate]
  show (if _ then _ else _) = _
  rw [if_neg hl]
  rfl

end

end FileTree

end EnumCompanion
