import EnumCompanion.Proofs.Text.Nesting

/-!
# `EnumCompanion.Proofs.Text.Groups`: groups of lines

Groups of lines are set off by blank lines. No line of a group is blank
itself, so that the blank lines are those between two groups, and only those.

* `intercalate_blank_cons`, `intercalate_blank_mid`: groups seen from the
  first one, and from any of them.
* `countP_isBlank_intercalate`: there is one blank line fewer than there are
  groups.
* `exists_groups_of_isBlank`: on both sides of a blank line there are groups.
-/

set_option autoImplicit false

namespace EnumCompanion.Text

/-! ### Groups -/

/-- Whole lines, of which the first closes no block and the last opens none. -/
structure IsGroup (ls : List String) : Prop where
  solid : ∀ l ∈ ls, IsSolid l
  first : ∃ l, ls.head? = some l ∧ closesBlock l = false
  last : ∃ l, ls.getLast? = some l ∧ opensBlock l = false

/-- A blank line stands between two groups of lines. -/
theorem intercalate_blank_cons (g : List String) (gs : List (List String)) :
    [""].intercalate (g :: gs) = g ++ gs.flatMap ("" :: ·) := by
  induction gs generalizing g with
  | nil => simp
  | cons next gs ih =>
    rw [List.intercalate_cons_cons, ih next, List.append_assoc]
    rfl

/-- A group stands behind the blank lines of those before it, and in front of
those of the others. -/
theorem intercalate_blank_mid (fs : List (List String)) (g : List String)
    (gs : List (List String)) :
    [""].intercalate (fs ++ g :: gs) =
      fs.flatMap (· ++ [""]) ++ (g ++ gs.flatMap ("" :: ·)) := by
  induction fs with
  | nil => rw [List.nil_append, intercalate_blank_cons, List.flatMap_nil, List.nil_append]
  | cons f fs ih =>
    obtain ⟨next, others, hnext⟩ := List.exists_cons_of_ne_nil (l := fs ++ g :: gs) (by simp)
    rw [List.cons_append, hnext, List.intercalate_cons_cons, ← hnext, ih, List.flatMap_cons,
      List.append_assoc (f ++ [""])]

/-! ### Blank lines -/

section

variable {gs : List (List String)}

/-- There is one blank line fewer than there are groups. -/
theorem countP_isBlank_intercalate (h : ∀ g ∈ gs, ∀ l ∈ g, IsSolid l) :
    ([""].intercalate gs).countP isBlank = gs.length - 1 := by
  have hnone : ∀ g : List String, (∀ l ∈ g, IsSolid l) → g.countP isBlank = 0 := fun g hg =>
    List.countP_eq_zero.mpr fun l hl => by simp [(hg l hl).shows]
  cases gs with
  | nil => rfl
  | cons g gs =>
    obtain ⟨hg, hgs⟩ := List.forall_mem_cons.mp h
    rw [intercalate_blank_cons, List.countP_append, hnone g hg, List.length_cons]
    -- Each group but the first has one blank line in front.
    clear h
    induction gs with
    | nil => rfl
    | cons next gs ih =>
      obtain ⟨hnext, hgs⟩ := List.forall_mem_cons.mp hgs
      have hblank : isBlank "" = true := by rfl
      rw [List.flatMap_cons, List.countP_append, List.countP_cons, hnone next hnext, hblank]
      have hrest := ih hgs
      simp only [List.length_cons, if_true] at hrest ⊢
      omega

/-- A line of two stretches is in the one or in the other. -/
theorem append_eq_append_cons {ls ms before after : List String} {l : String}
    (h : ls ++ ms = before ++ l :: after) :
    (∃ rest, ls = before ++ l :: rest ∧ after = rest ++ ms) ∨
      ∃ front, before = ls ++ front ∧ ms = front ++ l :: after := by
  rcases List.append_eq_append_iff.mp h with ⟨front, rfl, hms⟩ | ⟨rest, rfl, hrest⟩
  · exact .inr ⟨front, rfl, hms⟩
  · cases rest with
    | nil => exact .inr ⟨[], by simp, by simpa using hrest.symm⟩
    | cons x rest =>
      obtain ⟨rfl, rfl⟩ := List.cons.inj hrest
      exact .inl ⟨rest, rfl, rfl⟩

/-- On both sides of a blank line there are groups. -/
theorem exists_groups_of_isBlank (h : ∀ g ∈ gs, ∀ l ∈ g, IsSolid l) {before after : List String}
    {blank : String} (hblank : isBlank blank = true)
    (hsplit : [""].intercalate gs = before ++ blank :: after) :
    ∃ front rest, front ≠ [] ∧ rest ≠ [] ∧ gs = front ++ rest ∧
      before = [""].intercalate front ∧ after = [""].intercalate rest := by
  induction gs generalizing before with
  | nil => cases before <;> cases hsplit
  | cons g gs ih =>
    obtain ⟨hg, hgs⟩ := List.forall_mem_cons.mp h
    have hnot : blank ∉ g := fun hmem => by simp [(hg _ hmem).shows] at hblank
    cases gs with
    | nil =>
      rw [List.intercalate_singleton] at hsplit
      exact absurd (hsplit ▸ by simp) hnot
    | cons next gs =>
      rw [List.intercalate_cons_cons, List.append_assoc] at hsplit
      rcases append_eq_append_cons hsplit with ⟨rest, rfl, -⟩ | ⟨front, rfl, hfront⟩
      · exact absurd (by simp) hnot
      · cases front with
        | nil =>
          -- The blank line is the one behind the first group.
          obtain ⟨-, rfl⟩ := List.cons.inj hfront
          exact ⟨[g], next :: gs, nofun, nofun, rfl, by simp, rfl⟩
        | cons l front =>
          obtain ⟨rfl, hlater⟩ := List.cons.inj hfront
          obtain ⟨fs, rest, hfs, hrest, hgroups, rfl, rfl⟩ := ih hgs hlater
          refine ⟨g :: fs, rest, nofun, hrest, by rw [hgroups]; rfl, ?_, rfl⟩
          obtain ⟨f, others, rfl⟩ := List.exists_cons_of_ne_nil hfs
          rw [List.intercalate_cons_cons, List.append_assoc]
          rfl

/-- Lines in groups are one line each. -/
theorem lineFeed_not_mem_intercalate_blank (h : ∀ g ∈ gs, ∀ l ∈ g, IsSolid l) :
    ∀ l ∈ [""].intercalate gs, '\n' ∉ l.toList := by
  intro l hl
  cases gs with
  | nil => cases hl
  | cons g gs =>
    rw [intercalate_blank_cons, List.mem_append, List.mem_flatMap] at hl
    rcases hl with hl | ⟨next, hnext, hl⟩
    · exact (h g List.mem_cons_self l hl).oneLine
    · rcases List.mem_cons.mp hl with rfl | hl
      · exact List.not_mem_nil
      · exact (h next (List.mem_cons_of_mem g hnext) l hl).oneLine

/-! ### The lines beside a blank line -/

/-- A blank line sets off what is behind it: it stands between two lines that are
not blank, of which the first opens no block and the second closes none. -/
structure SetsOff (before after : List String) : Prop where
  before : ∃ l, before.getLast? = some l ∧ isBlank l = false ∧ opensBlock l = false
  after : ∃ l, after.head? = some l ∧ isBlank l = false ∧ closesBlock l = false

/-- So it is between groups. -/
theorem setsOff_groups {fs gs : List (List String)} (hf : ∀ g ∈ fs, IsGroup g)
    (hg : ∀ g ∈ gs, IsGroup g) (hfne : fs ≠ []) (hgne : gs ≠ []) (before after : List String) :
    SetsOff (before ++ [""].intercalate fs) ([""].intercalate gs ++ after) where
  before := by
    obtain ⟨others, g, rfl⟩ := (List.eq_nil_or_concat' fs).resolve_left hfne
    have hgroup := hf g (by simp)
    obtain ⟨l, hl, hopens⟩ := hgroup.last
    refine ⟨l, ?_, (hgroup.solid l (List.mem_of_getLast? hl)).shows, hopens⟩
    rw [intercalate_blank_mid]
    simp [List.getLast?_append, hl]
  after := by
    obtain ⟨g, others, rfl⟩ := List.exists_cons_of_ne_nil hgne
    have hgroup := hg g List.mem_cons_self
    obtain ⟨l, hl, hcloses⟩ := hgroup.first
    refine ⟨l, ?_, (hgroup.solid l (List.mem_of_mem_head? hl)).shows, hcloses⟩
    rw [intercalate_blank_cons]
    simp [List.head?_append, hl]

end

/-- Plain lines are a group. -/
theorem isGroup_lines {ws : List String} (h : ∀ w ∈ ws, IsPlainLine w ∧ '\n' ∉ w.toList)
    (hne : ws ≠ []) (width level : Nat) : IsGroup (ws.map (indented width level)) where
  solid := List.forall_mem_map.mpr fun w hw => (h w hw).1.isSolid (h w hw).2 width level
  first := by
    obtain ⟨w, others, rfl⟩ := List.exists_cons_of_ne_nil hne
    exact ⟨_, rfl, ((h w List.mem_cons_self).1.does width level).closes⟩
  last := by
    obtain ⟨others, w, rfl⟩ := (List.eq_nil_or_concat' ws).resolve_left hne
    exact ⟨indented width level w, by simp, ((h w (by simp)).1.does width level).opens⟩

section

variable {width level : Nat}

/-- Blank lines between stretches change nothing. -/
theorem nests_flatMap_concat {gs : List (List String)} (h : ∀ g ∈ gs, Nests width level 0 g) :
    Nests width level 0 (gs.flatMap (· ++ [""])) := by
  induction gs with
  | nil => exact nests_nil
  | cons g gs ih =>
    obtain ⟨hg, hgs⟩ := List.forall_mem_cons.mp h
    exact (hg.append nests_blank).append (ih hgs)

theorem nests_flatMap_cons {gs : List (List String)} (h : ∀ g ∈ gs, Nests width level 0 g) :
    Nests width level 0 (gs.flatMap ("" :: ·)) := by
  induction gs with
  | nil => exact nests_nil
  | cons g gs ih =>
    obtain ⟨hg, hgs⟩ := List.forall_mem_cons.mp h
    exact (nests_blank.append hg).append (ih hgs)

end

end EnumCompanion.Text
