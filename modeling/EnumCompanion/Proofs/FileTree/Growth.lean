import EnumCompanion.FileTree.Change
import EnumCompanion.Proofs.Except

/-!
# `EnumCompanion.Proofs.FileTree.Growth`: what stays when a tree is changed

Nothing is taken away when a file is written or a directory is made, but
for the file that stood at the place. So a path that leads somewhere goes
on to lead there.

* `Grows`: all directories are kept. `Grows.locate` says that a path then
  keeps its location.
* `Extends`: all directories and all files are kept, and so are the texts
  of the files. `createAll_extends` says this of making a directory, also
  when it comes to an obstacle half way.
* `locate_join`: a path into a directory leads to the location right below
  that of the directory, if it adds one name.
* `write_spec`: a file is written at one location, which is no directory.
-/

set_option autoImplicit false

namespace EnumCompanion.FileTree

/-! ### Trees that keep directories and files -/

/-- What the file at a location holds, if there is one. -/
def content? (t : FileTree) (l : Location) : Option Content :=
  match t.node? l with
  | some (.file content) => some content
  | _ => none

/-- A tree that has all directories of another. -/
structure Grows (t t' : FileTree) : Prop where
  here : t'.here = t.here
  directory : ∀ l, t.node? l = some .directory → t'.node? l = some .directory

/-- A tree that has all directories of another and the same files. -/
structure Extends (t t' : FileTree) : Prop extends Grows t t' where
  content : ∀ l, t'.content? l = t.content? l

theorem Grows.refl (t : FileTree) : t.Grows t :=
  ⟨rfl, fun _ h => h⟩

theorem Grows.trans {t t' t'' : FileTree} (h : t.Grows t') (h' : t'.Grows t'') : t.Grows t'' where
  here := h'.here.trans h.here
  directory l hl := h'.directory l (h.directory l hl)

theorem Extends.refl (t : FileTree) : t.Extends t :=
  ⟨.refl t, fun _ => rfl⟩

theorem Extends.trans {t t' t'' : FileTree} (h : t.Extends t') (h' : t'.Extends t'') :
    t.Extends t'' where
  toGrows := h.toGrows.trans h'.toGrows
  content l := (h'.content l).trans (h.content l)

/-! ### Paths keep their locations -/

/-- A step can only be taken from a directory. -/
theorem directory_of_enter {t : FileTree} {l k : Location} {part : String}
    (h : t.enter l part = .ok k) : t.node? l = some .directory := by
  unfold enter at h
  split at h
  · cases h
  · cases h
  · assumption

theorem Grows.enter {t t' : FileTree} (hgrows : t.Grows t') {l k : Location} {part : String}
    (h : t.enter l part = .ok k) : t'.enter l part = .ok k := by
  have hl := directory_of_enter h
  simp only [FileTree.enter, hl] at h
  simpa only [FileTree.enter, hgrows.directory l hl] using h

theorem Grows.follow {t t' : FileTree} (hgrows : t.Grows t') {parts : List String} :
    ∀ {l k : Location}, t.follow l parts = .ok k → t'.follow l parts = .ok k := by
  induction parts with
  | nil => exact fun h => h
  | cons part parts ih =>
    intro l k h
    unfold FileTree.follow at h ih ⊢
    rw [List.foldlM_cons] at h ⊢
    obtain ⟨m, hstep, h⟩ := bind_eq_ok h
    rw [hgrows.enter hstep]
    exact ih h

/-- A path that leads to a location still does when the tree has grown. -/
theorem Grows.locate {t t' : FileTree} (hgrows : t.Grows t') {p : FilePath} {l : Location}
    (h : t.locate p = .ok l) : t'.locate p = .ok l := by
  have hstart : t'.start p = t.start p := by
    unfold start
    rw [hgrows.here]
  unfold FileTree.locate at h ⊢
  obtain ⟨top, htop, h⟩ := bind_eq_ok h
  rw [hstart, htop]
  exact hgrows.follow h

/-! ### Putting a node -/

theorem put_directory_extends {t : FileTree} {l : Location} (h : t.node? l = none) :
    t.Extends (t.put l .directory) where
  here := rfl
  directory k hk := by
    rw [node?_put]
    by_cases hkl : k = l
    · rw [if_pos hkl]
    · rwa [if_neg hkl]
  content k := by
    unfold content?
    rw [node?_put]
    by_cases hkl : k = l
    · -- Nothing stood at the place, and what stands there is no file.
      rw [if_pos hkl, hkl, h]
    · rw [if_neg hkl]

theorem put_file_grows {t : FileTree} {l : Location} (content : Content)
    (h : t.node? l ≠ some .directory) : t.Grows (t.put l (.file content)) where
  here := rfl
  directory k hk := by
    rw [node?_put]
    by_cases hkl : k = l
    · exact absurd (hkl ▸ hk) h
    · rwa [if_neg hkl]

/-- Putting a file changes what one location holds. -/
theorem content?_put_file (t : FileTree) (l k : Location) (content : Content) :
    (t.put l (.file content)).content? k = if k = l then some content else t.content? k := by
  unfold content?
  rw [node?_put]
  by_cases hkl : k = l
  · rw [if_pos hkl, if_pos hkl]
  · rw [if_neg hkl, if_neg hkl]

/-! ### Making directories -/

theorem makeDirectory_extends {t t' : FileTree} {p : FilePath} (h : t.makeDirectory p = .ok t') :
    t.Extends t' := by
  unfold makeDirectory at h
  obtain ⟨top, -, h⟩ := bind_eq_ok h
  split at h
  · cases h
  · obtain ⟨above, -, h⟩ := bind_eq_ok h
    obtain ⟨l, -, h⟩ := bind_eq_ok h
    by_cases hl : (t.node? l).isSome = true
    · rw [if_pos hl] at h
      cases h
    · rw [if_neg hl] at h
      cases h
      exact put_directory_extends (by simpa using hl)

theorem ensure_extends (t : FileTree) (p : FilePath) : t.Extends (t.ensure p).1 := by
  unfold ensure
  split
  · next hmade => exact makeDirectory_extends hmade
  · exact .refl t

/-- Making a directory with those above it only adds directories, whether it
succeeds or not. -/
theorem createAll_extends (t : FileTree) (p : FilePath) : t.Extends (t.createAll p).1 := by
  fun_induction createAll t p with
  | case1 => exact .refl _
  | case2 p hne t' hmade => exact makeDirectory_extends hmade
  | case3 => exact .refl _
  | case4 => exact .refl _
  -- The directories above are made first; only if they are there, the last one is.
  | case5 p _ _ q _ t' hq ih =>
    rw [hq] at ih
    exact ih.trans (ensure_extends t' p)
  | case6 p _ _ q _ t' hq ih =>
    rw [hq] at ih
    exact ih

/-! ### Writing files -/

/-- A file is written where its path leads to, if no directory is there. -/
theorem write_spec {t t' : FileTree} {p : FilePath} {content : Content}
    (h : t.write p content = .ok t') :
    ∃ l, t.locate p = .ok l ∧ t.node? l ≠ some .directory ∧ t' = t.put l (.file content) := by
  unfold write at h
  obtain ⟨l, hl, h⟩ := bind_eq_ok h
  by_cases hdirectory : t.node? l = some .directory
  · rw [if_pos hdirectory] at h
    cases h
  · rw [if_neg hdirectory] at h
    cases h
    exact ⟨l, hl, hdirectory, rfl⟩

/-- The text of a file is what is read at its path. -/
theorem read?_eq_some {t : FileTree} {p : FilePath} {l : Location} {text : String}
    (hlocate : t.locate p = .ok l) (hcontent : t.content? l = some (.text text)) :
    t.read? p = some text := by
  unfold content? at hcontent
  unfold read? at?
  rw [hlocate]
  cases hnode : t.node? l with
  | none => simp [hnode] at hcontent
  | some node =>
    cases node with
    | directory => simp [hnode] at hcontent
    | file content =>
      simp only [hnode, Option.some.injEq] at hcontent
      simp only [hnode, hcontent]

/-! ### The location of a directory -/

/-- The location of a directory; the empty path is where relative paths
start. -/
def folder? (t : FileTree) (p : FilePath) : Option Location :=
  if p.text = "" then some t.here
  else
    match t.locate p with
    | .ok l => some l
    | .error _ => none

/-- A directory keeps its location. -/
theorem Grows.folder? {t t' : FileTree} (hgrows : t.Grows t') {p : FilePath} {l : Location}
    (h : t.folder? p = some l) : t'.folder? p = some l := by
  unfold FileTree.folder? at h ⊢
  by_cases hempty : p.text = ""
  · rw [if_pos hempty] at h ⊢
    rw [hgrows.here]
    exact h
  · rw [if_neg hempty] at h ⊢
    split at h
    · next k hk =>
      rw [hgrows.locate hk]
      exact h
    · cases h

/-- A text that is a name in a directory: it has no slash, and it is not one
of the texts that lead nowhere or up. -/
structure IsEntryName (name : String) : Prop where
  slash : '/' ∉ name.toList
  empty : name ≠ ""
  point : name ≠ "."
  points : name ≠ ".."

/-- A step to a name leads right below. -/
theorem eq_append_of_enter {t : FileTree} {l k : Location} {name : String}
    (hname : IsEntryName name) (h : t.enter l name = .ok k) : k = l ++ [name] := by
  simp only [enter, directory_of_enter h] at h
  rw [if_neg (by simp [hname.empty, hname.point]), if_neg hname.points] at h
  split at h
  · cases h
  · cases h
    rfl

/-- The steps to the last part, and the last step. -/
theorem follow_concat {t : FileTree} {l k : Location} {parts : List String} {part : String}
    (h : t.follow l (parts ++ [part]) = .ok k) :
    ∃ m, t.follow l parts = .ok m ∧ t.enter m part = .ok k := by
  unfold follow at h
  rw [List.foldlM_append] at h
  obtain ⟨m, hm, h⟩ := bind_eq_ok h
  obtain ⟨k', hk, h⟩ := bind_eq_ok h
  cases h
  exact ⟨m, hm, hk⟩

/-- An empty part at the end leads from a directory to itself. -/
theorem follow_concat_empty {t : FileTree} {l m : Location} {parts : List String}
    (h : t.follow l parts = .ok m) (hm : t.node? m = some .directory) :
    t.follow l (parts ++ [""]) = .ok m := by
  have hstep : t.enter m "" = .ok m := by simp [enter, hm]
  unfold follow at h ⊢
  rw [List.foldlM_append, h]
  show List.foldlM t.enter m [""] = .ok m
  rw [List.foldlM_cons, hstep]
  rfl

/-- A path that goes on from a directory starts where the directory does. -/
theorem start_of_append {t : FileTree} {directory q : FilePath} {top : Location} {more : String}
    (hne : directory.text ≠ "") (hq : q.text = directory.text ++ more)
    (h : t.start q = .ok top) : t.start directory = .ok top := by
  have hlist : q.text.toList = directory.text.toList ++ more.toList := by
    rw [hq, String.toList_append]
  have habsolute : q.isAbsolute = directory.isAbsolute := by
    unfold FilePath.isAbsolute
    rw [hlist]
    cases hd : directory.text.toList with
    | nil => exact absurd (String.toList_inj.mp hd) hne
    | cons c rest => rfl
  have hsize : directory.text.utf8ByteSize ≤ q.text.utf8ByteSize := by
    rw [hq, String.utf8ByteSize_append]
    omega
  unfold start at h ⊢
  rw [if_neg hne]
  split at h
  · cases h
  · split at h
    · cases h
    · next hfits =>
      -- The longer path is short enough and has no NUL, and so has this one.
      simp only [hlist, Bool.or_eq_true, decide_eq_true_eq, List.contains_iff_mem,
        List.mem_append, not_or] at hfits
      rw [if_neg, ← habsolute]
      · exact h
      · simp only [Bool.or_eq_true, decide_eq_true_eq, List.contains_iff_mem, not_or]
        exact ⟨by omega, hfits.2.1⟩

/-- A name is no absolute path. -/
theorem isAbsolute_of_isEntryName {name : String} (hname : IsEntryName name) :
    FilePath.isAbsolute ⟨name⟩ = false := by
  unfold FilePath.isAbsolute
  cases hn : name.toList with
  | nil => rfl
  | cons c rest =>
    have hc : c ≠ '/' := fun hc => hname.slash (by simp [hn, hc])
    simp [hc]

/-- A path that adds a name to a directory has the parts of the directory, up
to a slash at its end, and the name. -/
theorem exists_parts_join {directory : FilePath} {name : String} (hname : IsEntryName name)
    (hne : directory.text ≠ "") :
    ∃ more parts, (directory.join ⟨name⟩).text = directory.text ++ more ∧
      (directory.join ⟨name⟩).parts = parts ++ [name] ∧
      (directory.parts = parts ∨ directory.parts = parts ++ [""]) := by
  have hpiece : Text.cutAt '/' name.toList = [name.toList] := Text.cutAt_of_not_mem hname.slash
  unfold FilePath.join
  rw [if_neg (by simp [isAbsolute_of_isEntryName hname])]
  by_cases hslash : directory.text.toList.getLast? = some '/'
  · -- The slash at the end gives an empty part, which the name takes the place of.
    obtain ⟨ds, hds⟩ := List.getLast?_eq_some_iff.mp hslash
    rw [if_pos (by simp [hslash])]
    refine ⟨name, (Text.cutAt '/' ds).map String.ofList, rfl, ?_, .inr ?_⟩
    · simp [FilePath.parts, hds, Text.cutAt_append_cons, hpiece]
    · simp [FilePath.parts, hds, Text.cutAt_append_cons, Text.cutAt]
  · rw [if_neg (by simp [hne, hslash])]
    refine ⟨"/" ++ name, directory.parts, String.append_assoc .., ?_, .inl rfl⟩
    simp [FilePath.parts, Text.cutAt_append_cons, hpiece]

/-- A path that is a name starts where the tree is seen from. -/
theorem start_of_isEntryName {t : FileTree} {name : String} {top : Location}
    (hname : IsEntryName name) (h : t.start ⟨name⟩ = .ok top) : top = t.here := by
  unfold start at h
  split at h
  · cases h
  · split at h
    · cases h
    · rw [isAbsolute_of_isEntryName hname] at h
      cases h
      rfl

/-- A path that adds a name to a directory leads right below the directory,
if it leads anywhere. -/
theorem locate_join {t : FileTree} {directory : FilePath} {name : String} {l : Location}
    (hname : IsEntryName name) (h : t.locate (directory.join ⟨name⟩) = .ok l) :
    ∃ f, t.folder? directory = some f ∧ t.node? f = some .directory ∧ l = f ++ [name] := by
  unfold locate at h
  obtain ⟨top, htop, hfollow⟩ := bind_eq_ok h
  unfold folder?
  by_cases hempty : directory.text = ""
  · -- Seen from the empty path, the name stands on its own.
    have hjoin : directory.join ⟨name⟩ = ⟨name⟩ := by
      simp [FilePath.join, isAbsolute_of_isEntryName hname, hempty]
    have hparts : FilePath.parts ⟨name⟩ = [] ++ [name] := by
      simp [FilePath.parts, Text.cutAt_of_not_mem hname.slash]
    have hhere : top = t.here := start_of_isEntryName hname (hjoin ▸ htop)
    rw [hjoin, hparts] at hfollow
    obtain ⟨m, hm, hstep⟩ := follow_concat hfollow
    cases hm
    exact ⟨top, by rw [if_pos hempty, hhere], directory_of_enter hstep,
      eq_append_of_enter hname hstep⟩
  · -- The steps but the last one lead to the directory, with or without its slash.
    obtain ⟨more, parts, htext, hparts, hdirectory⟩ := exists_parts_join hname hempty
    rw [hparts] at hfollow
    obtain ⟨m, hm, hstep⟩ := follow_concat hfollow
    have hfolder : t.follow top directory.parts = .ok m := by
      obtain hdirectory | hdirectory := hdirectory
      · rwa [hdirectory]
      · rw [hdirectory]
        exact follow_concat_empty hm (directory_of_enter hstep)
    have hlocate : t.locate directory = .ok m := by
      unfold locate
      rw [start_of_append hempty htext htop]
      exact hfolder
    exact ⟨m, by rw [if_neg hempty, hlocate], directory_of_enter hstep,
      eq_append_of_enter hname hstep⟩

end EnumCompanion.FileTree
