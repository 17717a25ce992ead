import EnumCompanion.Proofs.FileTree.Growth

/-!
# `EnumCompanion.Proofs.FileTree.Directories`: making a directory once more

What making a directory comes to is settled by the first attempt. If it has
succeeded, the directory is there and nothing more is made. If it has
failed, it fails again, though directories above may have been made: what
was in the way still is.

* `exists_parts_parent`: the steps to a path go through its parent.
* `makeDirectory_eq`: one directory is made at a place that the path alone
  and the directories on the way tell.
* `isDirectory_of_createAll` and `isDirectory_eq_false_of_createAll`: what
  is said of a directory is so.
* `createAll_again`: the second attempt, in the tree that the first one has
  left. One that has succeeded need not come next (`createAll_of_grows`).
-/

set_option autoImplicit false

namespace EnumCompanion

/-! ### The parent of a path -/

/-- What is no cut stays in a piece. -/
theorem Text.exists_mem_cutAt {c x : Char} {cs : List Char} (hx : x ∈ cs) (hne : x ≠ c) :
    ∃ piece ∈ cutAt c cs, x ∈ piece := by
  induction cs with
  | nil => cases hx
  | cons y cs ih =>
    rw [cutAt]
    split
    · next hy =>
      subst hy
      obtain ⟨piece, hpiece, hmem⟩ := ih ((List.mem_cons.mp hx).resolve_left hne)
      exact ⟨piece, List.mem_cons_of_mem _ hpiece, hmem⟩
    · -- The character joins the first piece of the rest.
      cases hcut : cutAt c cs with
      | nil => exact absurd hcut (cutAt_ne_nil c cs)
      | cons first pieces =>
        rcases List.mem_cons.mp hx with rfl | hx
        · exact ⟨x :: first, List.mem_cons_self, List.mem_cons_self⟩
        · obtain ⟨piece, hpiece, hmem⟩ := ih hx
          rw [hcut] at hpiece
          rcases List.mem_cons.mp hpiece with rfl | hpiece
          · exact ⟨y :: piece, List.mem_cons_self, List.mem_cons_of_mem _ hmem⟩
          · exact ⟨piece, List.mem_cons_of_mem _ hpiece, hmem⟩

namespace FilePath

/-- What is trimmed off ends, seen from the other side, in a slash, unless
nothing is left. -/
theorem exists_trimmed (cs : List Char) :
    ∃ junk, cs = junk ++ trimmed cs ∧
      (junk = [] ∨ junk.getLast? = some '/' ∨ trimmed cs = []) := by
  fun_induction trimmed cs with
  | case1 rest ih =>
    obtain ⟨junk, hrest, hjunk⟩ := ih
    refine ⟨'/' :: junk, congrArg ('/' :: ·) hrest, ?_⟩
    rcases hjunk with rfl | hlast | hnil
    · exact .inr (.inl rfl)
    · exact .inr (.inl (by simp [List.getLast?_cons, hlast]))
    · exact .inr (.inr hnil)
  | case2 rest ih =>
    obtain ⟨junk, hrest, hjunk⟩ := ih
    refine ⟨'.' :: '/' :: junk, congrArg ('.' :: '/' :: ·) hrest, ?_⟩
    rcases hjunk with rfl | hlast | hnil
    · exact .inr (.inl rfl)
    · exact .inr (.inl (by simp [List.getLast?_cons, hlast]))
    · exact .inr (.inr hnil)
  | case3 => exact ⟨['.'], rfl, .inr (.inr rfl)⟩
  | case4 rest _ _ _ => exact ⟨[], rfl, .inl rfl⟩

theorem lead_append (cs : List Char) : (lead cs).1 ++ (lead cs).2 = cs := by
  unfold lead
  split <;> rfl

/-- The lead is a slash, a point with a slash or nothing behind it, or
nothing. -/
theorem lead_cases (cs : List Char) :
    (lead cs).1 = [] ∨ (lead cs).1 = ['/'] ∨
      (lead cs).1 = ['.'] ∧ ((lead cs).2 = [] ∨ ∃ rest, (lead cs).2 = '/' :: rest) := by
  unfold lead
  split <;> simp

/-- A parent that is not the empty path is the lead with what stands, beyond
what is trimmed off, in front of the last name. -/
theorem text_of_parent? {p q : FilePath} (h : p.parent? = some q) (hq : q.text ≠ "") :
    p.named ≠ [] ∧ q.text.toList =
      (lead p.text.toList).1 ++ (trimmed (p.named.dropWhile (· != '/'))).reverse := by
  unfold parent? at h
  split at h
  · split at h
    · cases h
      exact absurd rfl hq
    · cases h
  · next hne =>
    obtain rfl := Option.some.inj h
    exact ⟨hne, String.toList_ofList⟩

/-- What does not begin with a slash has a name in front of its first slash. -/
theorem exists_name {cs : List Char} (hne : cs ≠ []) (hhead : cs.head? ≠ some '/') :
    ∃ name, cs = name ++ cs.dropWhile (· != '/') ∧ name ≠ [] ∧ (∀ c ∈ name, c ≠ '/') ∧
      (cs.dropWhile (· != '/') = [] ∨ (cs.dropWhile (· != '/')).head? = some '/') := by
  refine ⟨cs.takeWhile (· != '/'), List.takeWhile_append_dropWhile.symm, ?_, ?_, ?_⟩
  · cases cs with
    | nil => exact absurd rfl hne
    | cons c rest =>
      have hc : c ≠ '/' := fun hc => hhead (by rw [hc]; rfl)
      simp [hc]
  · intro c hc
    simpa using List.all_eq_true.mp List.all_takeWhile c hc
  · cases hdrop : cs.dropWhile (· != '/') with
    | nil => exact .inl rfl
    | cons c rest =>
      have hstop := List.head?_dropWhile_not (· != '/') cs
      rw [hdrop] at hstop
      have hc : c = '/' := by simpa using hstop
      exact .inr (by rw [hc]; rfl)

/-- Behind a lead that is a parent by itself stands a slash, or it is one. -/
theorem slash_of_lead {p q : FilePath} {top more : List Char} (hq : q.text ≠ "") (htop : top = [])
    (hmore : more ≠ [])
    (htext : q.text.toList = (lead p.text.toList).1 ++ top.reverse)
    (hbehind : (lead p.text.toList).2 = top.reverse ++ more) :
    more.head? = some '/' ∨ q.text.toList.getLast? = some '/' := by
  subst htop
  rcases lead_cases p.text.toList with hlead | hlead | ⟨hlead, hnil | ⟨rest, hrest⟩⟩
  · rw [hlead] at htext
    exact absurd (String.toList_inj.mp htext) hq
  · exact .inr (by rw [htext, hlead]; rfl)
  · exact absurd (hbehind.symm.trans hnil) hmore
  · have hmore : more = '/' :: rest := hbehind.symm.trans hrest
    exact .inl (by rw [hmore]; rfl)

/-- A path goes on from its parent with a name, and a slash is between the
two. -/
theorem exists_parent_text {p q : FilePath} (h : p.parent? = some q) (hq : q.text ≠ "") :
    ∃ more, p.text.toList = q.text.toList ++ more ∧ (∃ c ∈ more, c ≠ '/') ∧
      (more.head? = some '/' ∨ q.text.toList.getLast? = some '/') := by
  obtain ⟨hne, htext⟩ := text_of_parent? h hq
  have hlead := lead_append p.text.toList
  have htop := head?_trimmed (p.named.dropWhile (· != '/'))
  -- Backwards, the text has what is trimmed off, a name, what is trimmed off again, and the parent.
  obtain ⟨after, hafter, -⟩ := exists_trimmed (lead p.text.toList).2.reverse
  obtain ⟨name, hnamed, hname, hslash, hrest⟩ := exists_name hne (head?_trimmed _)
  obtain ⟨between, hbetween, hends⟩ := exists_trimmed (p.named.dropWhile (· != '/'))
  change _ = after ++ p.named at hafter
  rw [hnamed] at hafter
  generalize p.named.dropWhile (· != '/') = rest at *
  generalize trimmed rest = top at *
  have hmore : between.reverse ++ name.reverse ++ after.reverse ≠ [] := by simp [hname]
  have hbehind : (lead p.text.toList).2 =
      top.reverse ++ (between.reverse ++ name.reverse ++ after.reverse) := by
    rw [← List.reverse_reverse (lead p.text.toList).2, hafter, hbetween]
    simp
  refine ⟨between.reverse ++ name.reverse ++ after.reverse, ?_, ?_, ?_⟩
  · rw [htext, List.append_assoc, ← hbehind, hlead]
  · obtain ⟨c, hc⟩ := List.exists_mem_of_ne_nil name hname
    exact ⟨c, by simp [hc], hslash c hc⟩
  · rcases hends with hnone | hlast | hend
    · -- Nothing is trimmed off, so no slash can be left in front of the name.
      have hend : top = [] := by
        rw [hnone, List.nil_append] at hbetween
        rcases hrest with hrest | hrest
        · rw [← hbetween, hrest]
        · exact absurd (hbetween ▸ hrest) htop
      exact slash_of_lead hq hend hmore htext hbehind
    · exact .inl (by simp [List.head?_append, List.head?_reverse, hlast])
    · exact slash_of_lead hq hend hmore htext hbehind

/-- The parts of a path are those of its parent, up to a slash at its end, and
more, of which one is a name. -/
theorem exists_parts_parent {p q : FilePath} (h : p.parent? = some q) (hq : q.text ≠ "") :
    ∃ more parts rest, p.text = q.text ++ more ∧ p.parts = parts ++ rest ∧
      (∃ part ∈ rest, part ≠ "") ∧ (q.parts = parts ∨ q.parts = parts ++ [""]) := by
  obtain ⟨more, htext, ⟨c, hc, hslash⟩, hbetween⟩ := exists_parent_text h hq
  have htext' : p.text = q.text ++ String.ofList more := by
    rw [← String.toList_inj, String.toList_append, String.toList_ofList, htext]
  have hpart : ∀ cs : List Char, c ∈ cs →
      ∃ part ∈ (Text.cutAt '/' cs).map String.ofList, part ≠ "" := by
    intro cs hcs
    obtain ⟨piece, hpiece, hmem⟩ := Text.exists_mem_cutAt hcs hslash
    refine ⟨String.ofList piece, List.mem_map_of_mem hpiece, fun hempty => ?_⟩
    have hnil : piece = [] := by simpa using congrArg String.toList hempty
    rw [hnil] at hmem
    cases hmem
  -- The slash between the two is either part of what is more, or the last of the parent.
  rcases hbetween with hhead | hlast
  · obtain ⟨behind, rfl⟩ := List.head?_eq_some_iff.mp hhead
    refine ⟨_, q.parts, (Text.cutAt '/' behind).map String.ofList, htext', ?_, ?_, .inl rfl⟩
    · rw [parts, parts, htext, Text.cutAt_append_cons, List.map_append]
    · refine hpart behind ?_
      rcases List.mem_cons.mp hc with rfl | hc
      · exact absurd rfl hslash
      · exact hc
  · obtain ⟨front, hfront⟩ := List.getLast?_eq_some_iff.mp hlast
    refine ⟨_, (Text.cutAt '/' front).map String.ofList, (Text.cutAt '/' more).map String.ofList,
      htext', ?_, hpart more hc, .inr ?_⟩
    · simp [parts, htext, hfront, Text.cutAt_append_cons]
    · simp [parts, hfront, Text.cutAt_append_cons, Text.cutAt]

/-- The parts of a path without empty ones at the end, which lead nowhere. -/
def names (p : FilePath) : List String :=
  (p.parts.reverse.dropWhile (· = "")).reverse

theorem exists_parts_names (p : FilePath) : ∃ k, p.parts = p.names ++ List.replicate k "" := by
  have hends : ∀ part ∈ p.parts.reverse.takeWhile (· = ""), part = "" := fun part hpart => by
    simpa using List.all_eq_true.mp List.all_takeWhile part hpart
  have hsplit := List.takeWhile_append_dropWhile (p := (· = "")) (l := p.parts.reverse)
  have hreverse := congrArg List.reverse hsplit
  rw [List.reverse_append, List.reverse_reverse, List.eq_replicate_of_mem hends,
    List.reverse_replicate] at hreverse
  exact ⟨_, hreverse.symm⟩

end FilePath

namespace FileTree

/-! ### Directories on the way -/

theorem isDirectory_iff {t : FileTree} {p : FilePath} :
    t.isDirectory p = true ↔ ∃ l, t.locate p = .ok l ∧ t.node? l = some .directory := by
  unfold isDirectory at?
  cases t.locate p with
  | error e => simp
  | ok l => simp

/-- A directory stays one. -/
theorem Grows.isDirectory {t t' : FileTree} (hgrows : t.Grows t') {p : FilePath}
    (h : t.isDirectory p = true) : t'.isDirectory p = true := by
  obtain ⟨l, hlocate, hl⟩ := isDirectory_iff.mp h
  exact isDirectory_iff.mpr ⟨l, hgrows.locate hlocate, hgrows.directory l hl⟩

/-- On the way to a place are directories. -/
theorem directory_of_follow_append {t : FileTree} {l k : Location} {parts rest : List String}
    (hrest : rest ≠ []) (h : t.follow l (parts ++ rest) = .ok k) :
    ∃ m, t.follow l parts = .ok m ∧ t.node? m = some .directory := by
  obtain ⟨part, rest, rfl⟩ := List.exists_cons_of_ne_nil hrest
  unfold follow at h ⊢
  rw [List.foldlM_append] at h
  obtain ⟨m, hm, h⟩ := bind_eq_ok h
  rw [List.foldlM_cons] at h
  obtain ⟨next, hnext, -⟩ := bind_eq_ok h
  exact ⟨m, hm, directory_of_enter hnext⟩

/-- Empty parts lead from a directory to itself. -/
theorem follow_append_replicate {t : FileTree} {l m : Location} {parts : List String}
    (h : t.follow l parts = .ok m) (hm : t.node? m = some .directory) (k : Nat) :
    t.follow l (parts ++ List.replicate k "") = .ok m := by
  induction k with
  | zero => simpa using h
  | succ k ih =>
    rw [List.replicate_succ', ← List.append_assoc]
    exact follow_concat_empty ih hm

/-- Where a path leads somewhere, it does so without the empty parts at its
end. -/
theorem exists_follow_names {t : FileTree} {p : FilePath} {top l : Location}
    (h : t.follow top p.parts = .ok l) : ∃ m, t.follow top p.names = .ok m := by
  obtain ⟨k, hnames⟩ := p.exists_parts_names
  rw [hnames, follow, List.foldlM_append] at h
  obtain ⟨m, hm, -⟩ := bind_eq_ok h
  exact ⟨m, hm⟩

/-- The parent of a path that leads somewhere is a directory, though its text
may have empty parts at the end. -/
theorem isDirectory_parent {t : FileTree} {p q : FilePath} {top l : Location}
    (hparent : p.parent? = some q) (hq : q.text ≠ "") (hstart : t.start p = .ok top)
    (hfollow : t.follow top p.names = .ok l) : t.isDirectory q = true := by
  obtain ⟨more, parts, rest, htext, hparts, ⟨part, hpart, hname⟩, hfolder⟩ :=
    FilePath.exists_parts_parent hparent hq
  obtain ⟨k, hnames⟩ := p.exists_parts_names
  -- The name is not among the empty parts, so the way goes on from the parent.
  obtain ⟨way, hway, hon⟩ : ∃ way, p.names = parts ++ way ∧ way ≠ [] := by
    rcases List.append_eq_append_iff.mp (hparts.symm.trans hnames) with
      ⟨way, hway, hrest⟩ | ⟨others, -, hothers⟩
    · refine ⟨way, hway, ?_⟩
      rintro rfl
      rw [hrest] at hpart
      exact hname (List.eq_of_mem_replicate hpart)
    · have hmem : part ∈ List.replicate k "" := hothers ▸ List.mem_append_right _ hpart
      exact absurd (List.eq_of_mem_replicate hmem) hname
  rw [hway] at hfollow
  obtain ⟨m, hm, hdirectory⟩ := directory_of_follow_append hon hfollow
  refine isDirectory_iff.mpr ⟨m, ?_, hdirectory⟩
  unfold locate
  rw [start_of_append hq htext hstart]
  rcases hfolder with hfolder | hfolder
  · rw [hfolder]
    exact hm
  · rw [hfolder]
    exact follow_concat_empty hm hdirectory

/-- A directory is in a directory. -/
theorem isDirectory_parent_of_isDirectory {t : FileTree} {p q : FilePath}
    (hparent : p.parent? = some q) (hq : q.text ≠ "") (h : t.isDirectory p = true) :
    t.isDirectory q = true := by
  obtain ⟨l, hlocate, -⟩ := isDirectory_iff.mp h
  obtain ⟨top, hstart, hfollow⟩ := bind_eq_ok hlocate
  obtain ⟨m, hm⟩ := exists_follow_names hfollow
  exact isDirectory_parent hparent hq hstart hm

/-! ### Making one directory -/

/-- Where a directory can be made. -/
def vacancy (t : FileTree) (p : FilePath) : Except Obstacle Location := do
  let l ← t.follow (← t.start p) p.names
  if p.names = [] || (t.node? l).isSome then throw .inTheWay
  return l

/-- A directory is made where one can be made. -/
theorem makeDirectory_eq (t : FileTree) (p : FilePath) :
    t.makeDirectory p = (t.vacancy p).map (t.put · .directory) := by
  unfold makeDirectory vacancy FilePath.names
  -- Both follow the same steps; only the way to the last one is spelt differently.
  generalize p.parts.reverse.dropWhile (· = "") = names
  cases t.start p with
  | error e => rfl
  | ok top =>
    cases names with
    | nil => rfl
    | cons name above =>
      have hfollow : t.follow top (name :: above).reverse =
          t.follow top above.reverse >>= fun m => t.enter m name := by
        simp [follow, List.foldlM_append]
      simp only [Bind.bind, Except.bind] at hfollow ⊢
      rw [hfollow]
      cases t.follow top above.reverse with
      | error e => rfl
      | ok m =>
        dsimp only
        cases t.enter m name with
        | error e => rfl
        | ok l =>
          simp only [List.reverse_eq_nil_iff, reduceCtorEq, decide_false, Bool.false_or]
          cases (t.node? l).isSome <;> rfl

/-- Where a directory can be made, nothing stands, and the path leads there. -/
theorem vacancy_eq_ok {t : FileTree} {p : FilePath} {l : Location} (h : t.vacancy p = .ok l) :
    t.node? l = none ∧ ∃ top, t.start p = .ok top ∧ t.follow top p.names = .ok l := by
  unfold vacancy at h
  obtain ⟨top, htop, h⟩ := bind_eq_ok h
  obtain ⟨m, hm, h⟩ := bind_eq_ok h
  split at h
  · cases h
  · next hfree =>
    cases h
    simp only [Bool.or_eq_true, not_or, Bool.not_eq_true, Option.isSome_eq_false_iff,
      Option.isNone_iff_eq_none] at hfree
    exact ⟨hfree.2, top, htop, hm⟩

/-- A directory that is made is there. -/
theorem isDirectory_of_makeDirectory {t t' : FileTree} {p : FilePath}
    (h : t.makeDirectory p = .ok t') : t'.isDirectory p = true := by
  have hgrows := (makeDirectory_extends h).toGrows
  rw [makeDirectory_eq] at h
  cases hvacancy : t.vacancy p with
  | error e => rw [hvacancy] at h; cases h
  | ok l =>
    rw [hvacancy] at h
    obtain rfl := Except.ok.inj h
    obtain ⟨-, top, hstart, hfollow⟩ := vacancy_eq_ok hvacancy
    have hmade : (t.put l .directory).node? l = some .directory := by rw [node?_put, if_pos rfl]
    -- The path itself may end in slashes, which lead on from a directory to the same place.
    obtain ⟨k, hnames⟩ := p.exists_parts_names
    refine isDirectory_iff.mpr ⟨l, ?_, hmade⟩
    have hstart' : (t.put l .directory).start p = .ok top := hstart
    unfold locate
    rw [hstart', hnames]
    exact follow_append_replicate (hgrows.follow hfollow) hmade k

/-- A directory is made in a directory. -/
theorem isDirectory_parent_of_makeDirectory {t t' : FileTree} {p q : FilePath}
    (hparent : p.parent? = some q) (hq : q.text ≠ "") (h : t.makeDirectory p = .ok t') :
    t.isDirectory q = true := by
  rw [makeDirectory_eq] at h
  cases hvacancy : t.vacancy p with
  | error e => rw [hvacancy] at h; cases h
  | ok l =>
    obtain ⟨-, top, hstart, hfollow⟩ := vacancy_eq_ok hvacancy
    exact isDirectory_parent hparent hq hstart hfollow

/-- Where a directory is, none is made. -/
theorem makeDirectory_of_isDirectory {t : FileTree} {p : FilePath} (h : t.isDirectory p = true) :
    t.makeDirectory p = .error .inTheWay := by
  obtain ⟨l, hlocate, hl⟩ := isDirectory_iff.mp h
  obtain ⟨top, hstart, hfollow⟩ := bind_eq_ok hlocate
  obtain ⟨k, hnames⟩ := p.exists_parts_names
  -- Without the empty parts at its end, the path leads to something as well.
  obtain ⟨m, hm, hsome⟩ : ∃ m, t.follow top p.names = .ok m ∧ (t.node? m).isSome = true := by
    rw [hnames] at hfollow
    cases k with
    | zero => exact ⟨l, by simpa using hfollow, by rw [hl]; rfl⟩
    | succ k =>
      obtain ⟨m, hm, hdirectory⟩ := directory_of_follow_append (by simp) hfollow
      exact ⟨m, hm, by rw [hdirectory]; rfl⟩
  have hvacancy : t.vacancy p = .error .inTheWay := by
    unfold vacancy
    rw [hstart]
    show (t.follow top p.names >>= _) = _
    rw [hm]
    show (if _ then _ else _) = _
    rw [if_pos (by simp [hsome])]
    rfl
  rw [makeDirectory_eq, hvacancy]
  rfl

/-! ### Directories with those above them -/

section

variable {t t' : FileTree} {p q : FilePath}

theorem createAll_of_empty (h : p.text = "") : t.createAll p = (t, true) := by
  rw [createAll, if_pos h]

theorem createAll_of_ok (hne : p.text ≠ "") (h : t.makeDirectory p = .ok t') :
    t.createAll p = (t', true) := by
  rw [createAll, if_neg hne, h]

theorem createAll_of_inTheWay (hne : p.text ≠ "") (h : t.makeDirectory p = .error .inTheWay) :
    t.createAll p = (t, t.isDirectory p) := by
  rw [createAll, if_neg hne, h]

theorem createAll_of_orphan (hne : p.text ≠ "") (h : t.makeDirectory p = .error .missing)
    (hparent : p.parent? = none) : t.createAll p = (t, false) := by
  rw [createAll, if_neg hne, h]
  simp only
  split
  · rfl
  · next heq => cases hparent.symm.trans heq

theorem createAll_of_parent (hne : p.text ≠ "") (h : t.makeDirectory p = .error .missing)
    (hparent : p.parent? = some q) {made : Bool} (hq : t.createAll q = (t', made)) :
    t.createAll p = if made then t'.ensure p else (t', false) := by
  rw [createAll, if_neg hne, h]
  simp only
  split
  · next heq => cases hparent.symm.trans heq
  · next q' heq =>
    obtain rfl := Option.some.inj (hparent.symm.trans heq)
    rw [hq]
    cases made <;> rfl

/-- A directory that is there need not be made. -/
theorem createAll_of_isDirectory (h : t.isDirectory p = true) : t.createAll p = (t, true) := by
  by_cases hempty : p.text = ""
  · exact createAll_of_empty hempty
  · rw [createAll_of_inTheWay hempty (makeDirectory_of_isDirectory h), h]

/-- The last step says whether the directory is there. -/
theorem isDirectory_of_ensure {made : Bool} (h : t.ensure p = (t', made)) :
    t'.isDirectory p = made := by
  unfold ensure at h
  split at h
  · next hmade =>
    obtain ⟨rfl, rfl⟩ := Prod.mk.inj h
    exact isDirectory_of_makeDirectory hmade
  · exact (Prod.mk.inj h).1 ▸ (Prod.mk.inj h).2

/-- What is said to be there is there. -/
theorem isDirectory_of_createAll (h : t.createAll p = (t', true)) :
    p.text = "" ∨ t'.isDirectory p = true := by
  fun_cases createAll t p with
  | case1 hempty => exact .inl hempty
  | case2 hne u hmake =>
    obtain ⟨rfl, -⟩ := Prod.mk.inj ((createAll_of_ok hne hmake).symm.trans h)
    exact .inr (isDirectory_of_makeDirectory hmake)
  | case3 hne hmake =>
    obtain ⟨rfl, hdirectory⟩ := Prod.mk.inj ((createAll_of_inTheWay hne hmake).symm.trans h)
    exact .inr hdirectory
  | case4 hne hmake hparent =>
    rw [createAll_of_orphan hne hmake hparent] at h
    cases h
  | case5 hne hmake q hparent u hq =>
    rw [createAll_of_parent hne hmake hparent hq] at h
    exact .inr (isDirectory_of_ensure h)
  | case6 hne hmake q hparent u hq =>
    rw [createAll_of_parent hne hmake hparent hq] at h
    cases h

theorem text_of_createAll_false (h : t.createAll p = (t', false)) : p.text ≠ "" := by
  intro hempty
  rw [createAll_of_empty hempty] at h
  cases h

/-- What is said not to be there is not there: the induction is on the
parents. -/
theorem isDirectory_eq_false_of_createAll (h : t.createAll p = (t', false)) :
    t'.isDirectory p = false := by
  fun_induction createAll t p generalizing t' with
  | case1 => cases h
  | case2 => cases h
  | case3 =>
    obtain ⟨rfl, hdirectory⟩ := Prod.mk.inj h
    exact hdirectory
  | case4 p hne hmake hparent =>
    obtain ⟨rfl, -⟩ := Prod.mk.inj h
    rw [Bool.eq_false_iff]
    intro hdirectory
    rw [makeDirectory_of_isDirectory hdirectory] at hmake
    cases hmake
  | case5 p hne hmake q hparent u hq ih => exact isDirectory_of_ensure h
  | case6 p hne hmake q hparent u hq ih =>
    -- The parent is not there, and no directory is without its parent.
    obtain ⟨rfl, -⟩ := Prod.mk.inj h
    have hmissing := ih hq
    rw [Bool.eq_false_iff] at hmissing ⊢
    exact fun hdirectory =>
      hmissing (isDirectory_parent_of_isDirectory hparent (text_of_createAll_false hq) hdirectory)

/-- A directory that has been made need not be made again, whatever else has
been made since. -/
theorem createAll_of_grows {u : FileTree} (h : t.createAll p = (t', true)) (hgrows : t'.Grows u) :
    u.createAll p = (u, true) := by
  rcases isDirectory_of_createAll h with hempty | hdirectory
  · exact createAll_of_empty hempty
  · exact createAll_of_isDirectory (hgrows.isDirectory hdirectory)

/-- A second attempt in the tree that the first one has left comes to the same
and makes nothing more. -/
theorem createAll_again {made : Bool} (h : t.createAll p = (t', made)) :
    t'.createAll p = (t', made) := by
  cases made with
  | true => exact createAll_of_grows h (.refl t')
  | false =>
    fun_induction createAll t p generalizing t' with
    | case1 => cases h
    | case2 => cases h
    | case3 p hne hmake =>
      obtain ⟨rfl, hdirectory⟩ := Prod.mk.inj h
      rw [createAll_of_inTheWay hne hmake, hdirectory]
    | case4 p hne hmake hparent =>
      obtain ⟨rfl, -⟩ := Prod.mk.inj h
      exact createAll_of_orphan hne hmake hparent
    | case5 p hne hmake q hparent u hq ih =>
      -- The parent has been made, and stays; what failed is the last step alone.
      have hagain : u.createAll q = (u, true) := createAll_of_grows hq (.refl u)
      have hensure := h
      unfold ensure at hensure
      split at hensure
      · cases hensure
      · next e he =>
        obtain ⟨rfl, hdirectory⟩ := Prod.mk.inj hensure
        cases e with
        | inTheWay => rw [createAll_of_inTheWay hne he, hdirectory]
        | missing =>
          rw [createAll_of_parent hne he hparent hagain]
          exact h
    | case6 p hne hmake q hparent u hq ih =>
      obtain ⟨rfl, -⟩ := Prod.mk.inj h
      have hmissing : u.isDirectory q = false := isDirectory_eq_false_of_createAll hq
      rw [Bool.eq_false_iff] at hmissing
      have htext := text_of_createAll_false hq
      cases hmade : u.makeDirectory p with
      | ok v =>
        exact absurd (isDirectory_parent_of_makeDirectory hparent htext hmade) hmissing
      | error e =>
        cases e with
        | inTheWay =>
          have hdirectory : u.isDirectory p = false := by
            rw [Bool.eq_false_iff]
            exact fun h => hmissing (isDirectory_parent_of_isDirectory hparent htext h)
          rw [createAll_of_inTheWay hne hmade, hdirectory]
        | missing =>
          rw [createAll_of_parent hne hmade hparent (ih hq)]
          rfl

end

end FileTree

end EnumCompanion
