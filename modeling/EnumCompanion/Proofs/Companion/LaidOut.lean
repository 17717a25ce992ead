import EnumCompanion.Proofs.Companion.Tidy

/-!
# `EnumCompanion.Proofs.Companion.LaidOut`: how a companion is laid out

A companion is written for readers too. `IsLaidOut` says what its lines look
like to one who counts braces and spaces: where there are blank lines and how
many, and how far each line is indented.

Types and the path to the runtime are written as they are. With a line feed in
one of them, a companion has lines that it was not laid out for, so they have
none here.

* `Code.IsBlankPlace` and `isBlankPlace`: the places of blank lines, and that
  there are no others.
* `countP_isBlank`: how many there are.
* `nests_lines_code`: the lines of a companion stand right, with the chain of
  `associate` as the only one.
* `generate_laid_out`: the companion of a summary is laid out.
-/

set_option autoImplicit false

namespace EnumCompanion

open EnumCompanion.Text

namespace Companion

/-- A place for a blank line in a companion, between the lines before it and those
after it: behind the module path, behind the struct, or between two groups of
members. -/
inductive Code.IsBlankPlace (c : Code) (width : Nat) : List String → List String → Prop where
  | scope (after : List String) : c.IsBlankPlace width ["// namespace " ++ c.scope] after
  | struct (after : List String) :
    c.IsBlankPlace width
      ["// namespace " ++ c.scope, "", "#[allow(non_camel_case_types)]",
        "pub struct " ++ c.name ++ ";"] after
  | members {fs gs : List (List String)} (hfs : fs ≠ []) (hgs : gs ≠ [])
    (hgroups : c.groups width = fs ++ gs) :
    c.IsBlankPlace width (c.front ++ [""].intercalate fs) ([""].intercalate gs ++ ["\x7d"])

/-- How the companion of a summary is laid out. -/
structure IsLaidOut (style : Style) (s : Summary) (text : String) : Prop where
  /-- It ends in one line feed. -/
  ends : ∃ body, text = body ++ "\x7d\n"
  /-- It does not begin with a blank line. -/
  begins : ∃ l, (lines text).head? = some l ∧ isBlank l = false
  /-- Every blank line has its place, and no other blank line beside it, no line
  that opens a block in front of it and none that closes one behind it. -/
  blanks : ∀ before blank after, lines text = before ++ blank :: after → isBlank blank = true →
    (code style s).IsBlankPlace style.indentWidth before after ∧ SetsOff before after
  /-- There are so many blank lines. -/
  count : (lines text).countP isBlank =
    s.parameters.length + (if s.constants = [] then 4 else 5)
  /-- Every line is indented by its blocks, and one level more in a chain. -/
  nested : IsNested style.indentWidth (lines text)
  /-- There is one chain, the one in `associate`. -/
  chain : (lines text).countP beginsChain = 1 ∧ ∃ before after,
    lines text = before ++ ((associate s).lines style.indentWidth ++ after) ∧
      ∀ l ∈ before ++ after, beginsChain l = false ∧ endsChain l = false

/-- There is a group of members for every function, and one for the constants if
there are any. -/
theorem length_groups (style : Style) (s : Summary) (width : Nat) :
    ((code style s).groups width).length =
      s.parameters.length + (if s.constants = [] then 3 else 4) := by
  rw [Code.groups, Code.constantGroups, List.length_append, List.length_map]
  simp only [code, List.length_append, List.length_map, List.length_cons, List.length_nil]
  by_cases hnil : s.constants = []
  · simp [hnil]
  · simp [hnil]
    omega

section

variable {style : Style} {s : Summary} (h : s.defect? = none)
  (hruntime : '\n' ∉ style.runtime.toList)
  (htypes : ∀ p ∈ s.parameters, '\n' ∉ p.type.toList)

include h hruntime htypes

/-! ### Lines -/

/-- The lines of a companion are found in its text. -/
theorem lines_text (width : Nat) :
    lines ((code style s).text width) = (code style s).lines width := by
  have hgroups := isGroup_groups h hruntime htypes width
  rw [Code.text_eq_unlines]
  refine lines_unlines (List.forall_mem_append.mpr
    ⟨lineFeed_not_mem_intercalate_blank (isSolid_heads h style), List.forall_mem_append.mpr
      ⟨lineFeed_not_mem_intercalate_blank fun g hg => (hgroups g hg).solid, by decide⟩⟩)

/-! ### Blank lines -/

/-- There are so many blank lines. -/
theorem countP_isBlank (width : Nat) :
    ((code style s).lines width).countP isBlank =
      s.parameters.length + (if s.constants = [] then 4 else 5) := by
  have hgroups := isGroup_groups h hruntime htypes width
  have hclose : (["\x7d"] : List String).countP isBlank = 0 := by rfl
  rw [Code.lines, Code.front, List.countP_append, List.countP_append,
    countP_isBlank_intercalate (isSolid_heads h style),
    countP_isBlank_intercalate fun g hg => (hgroups g hg).solid, length_groups, hclose]
  show 2 + (_ - 1 + 0) = _
  split <;> omega

/-- Every blank line has its place. -/
theorem isBlankPlace {width : Nat} {before after : List String} {blank : String}
    (hblank : isBlank blank = true)
    (hsplit : (code style s).lines width = before ++ blank :: after) :
    (code style s).IsBlankPlace width before after ∧ SetsOff before after := by
  have hgroups := isGroup_groups h hruntime htypes width
  have hheads := isSolid_heads h style
  rcases append_eq_append_cons hsplit with ⟨rest, hfront, -⟩ | ⟨front, rfl, hmembers⟩
  · obtain ⟨fs, gs, hfs, hgs, hcut, rfl, -⟩ := exists_groups_of_isBlank hheads hblank hfront
    simp only [Code.heads, List.forall_mem_cons] at hheads
    obtain ⟨⟨hscope, -⟩, ⟨hallow, hstruct, -⟩, ⟨hlints, -⟩, -⟩ := hheads
    -- What is in front are one or two of the three groups.
    rcases fs with _ | ⟨f, _ | ⟨f', _ | ⟨f'', fs⟩⟩⟩
    · exact absurd rfl hfs
    · obtain ⟨rfl, -⟩ := List.cons.inj hcut
      have hafter : after.head? = some "#[allow(non_camel_case_types)]" := by
        have hdrop : after = ((code style s).lines width).drop 2 := by
          rw [hsplit]
          rfl
        rw [hdrop]
        rfl
      exact ⟨.scope after, ⟨_, rfl, hscope.shows, (isPlainLine_scope h).opensBlock⟩,
        ⟨_, hafter, hallow.shows, by decide⟩⟩
    · obtain ⟨rfl, hlater⟩ := List.cons.inj hcut
      obtain ⟨rfl, -⟩ := List.cons.inj hlater
      have hafter : after.head? = some
          "#[allow(non_snake_case, non_upper_case_globals, dead_code, private_interfaces)]" := by
        have hdrop : after = ((code style s).lines width).drop 5 := by
          rw [hsplit]
          rfl
        rw [hdrop]
        rfl
      exact ⟨.struct after, ⟨_, rfl, hstruct.shows, (isPlainLine_struct _).opensBlock⟩,
        ⟨_, hafter, hlints.shows, by decide⟩⟩
    · simp [Code.heads, hgs] at hcut
  · rcases append_eq_append_cons hmembers with ⟨rest, hrest, rfl⟩ | ⟨back, rfl, hclose⟩
    · obtain ⟨fs, gs, hfs, hgs, hcut, rfl, rfl⟩ :=
        exists_groups_of_isBlank (fun g hg => (hgroups g hg).solid) hblank hrest
      rw [hcut, List.forall_mem_append] at hgroups
      exact ⟨.members hfs hgs hcut, setsOff_groups hgroups.1 hgroups.2 hfs hgs _ _⟩
    · -- The line that closes the members is not blank.
      have hmem : blank ∈ ["\x7d"] := hclose ▸ by simp
      obtain rfl := List.mem_singleton.mp hmem
      cases hblank

/-! ### Margins -/

/-- The lines in front of the one that opens the block of members. -/
def Code.preface (c : Code) : List String :=
  ["// namespace " ++ c.scope, "", "#[allow(non_camel_case_types)]",
    "pub struct " ++ c.name ++ ";", "",
    "#[allow(non_snake_case, non_upper_case_globals, dead_code, private_interfaces)]"]

omit hruntime htypes in
/-- They stand at the outermost level. -/
theorem nests_preface (style : Style) (width : Nat) :
    Nests width 0 0 (code style s).preface := by
  have hplain : ∀ {w : String}, IsPlainLine w → Nests width 0 0 [w] := by
    intro w hw
    have hline : Nests width 0 0 [indented width 0 w] := nests_line hw
    simpa using hline
  have hcase : IsPlainLine "#[allow(non_camel_case_types)]" :=
    ⟨isHeader_of_head? (c := '#') (by decide) (by decide), by decide, by decide⟩
  have hlints : IsPlainLine
      "#[allow(non_snake_case, non_upper_case_globals, dead_code, private_interfaces)]" :=
    ⟨isHeader_of_head? (c := '#') (by decide) (by decide), by decide, by decide⟩
  have hstruct := isPlainLine_struct s.companionName
  exact (hplain (isPlainLine_scope h)).append (nests_blank.append ((hplain hcase).append
    ((hplain hstruct).append (nests_blank.append (hplain hlints)))))

/-- The functions of a companion but `associate` have no chain. -/
theorem nests_functions (width : Nat) : ∃ fs gs,
    (code style s).groups width = fs ++ (associate s).lines width :: gs ∧
      (∀ g ∈ fs, Nests width 1 0 g) ∧ ∀ g ∈ gs, Nests width 1 0 g := by
  have hconstants : ∀ g ∈ (code style s).constantGroups width, Nests width 1 0 g := by
    unfold Code.constantGroups
    split
    next => exact fun g hg => absurd hg List.not_mem_nil
    next =>
      have hplain : ∀ w ∈ s.constants.map constantLine, IsPlainLine w :=
        List.forall_mem_map.mpr fun n _ => isPlainLine_constantLine n
      have hlines : Nests width 1 0 ((s.constants.map constantLine).map (indented width 1)) :=
        nests_lines hplain
      rw [List.map_map] at hlines
      exact List.forall_mem_singleton.mpr hlines
  have hlookups : ∀ g ∈ (s.parameters.map (lookup style s)).map (Function.lines width),
      Nests width 1 0 g := List.forall_mem_map.mpr (List.forall_mem_map.mpr fun p hp =>
    (isTidy_lookup h hp hruntime (htypes p hp)).nests width)
  have hrest : ∀ g ∈ [(enumList s).lines width, (table s).lines width], Nests width 1 0 g :=
    List.forall_mem_cons.mpr ⟨(isTidy_enumList h).nests width,
      List.forall_mem_singleton.mpr ((isTidy_table h).nests width)⟩
  refine ⟨_, _, ?_, List.forall_mem_append.mpr ⟨hconstants, hlookups⟩, hrest⟩
  rw [Code.groups, List.append_assoc]
  simp [code]

/-- The lines of a companion stand right, and `associate` has the one chain. -/
theorem nests_lines_code (width : Nat) :
    Nests width 0 1 ((code style s).lines width) ∧ ∃ before after,
      (code style s).lines width = before ++ ((associate s).lines width ++ after) ∧
        ∀ l ∈ before ++ after, beginsChain l = false ∧ endsChain l = false := by
  obtain ⟨fs, gs, hgroups, hfs, hgs⟩ := nests_functions h hruntime htypes width
  let header := "impl " ++ s.companionName
  have hlines : (code style s).lines width = (code style s).preface ++ (header ++ " \x7b") ::
      ((fs.flatMap (· ++ [""]) ++ ((associate s).lines width ++ gs.flatMap ("" :: ·))) ++
        ["\x7d"]) := by
    rw [Code.lines, hgroups, intercalate_blank_mid]
    rfl
  have hheader : IsHeader header :=
    isHeader_of_head? (c := 'i') (by simp [header]) (by decide)
  have hpreface := nests_preface h style width
  have hbefore := nests_flatMap_concat hfs
  have hafter := nests_flatMap_cons hgs
  have hassociate : Nests width 1 1 ((associate s).lines width) :=
    (isTidy_associate h).nests width
  have hblock := (hbefore.append (hassociate.append hafter)).block hheader
    (by decide : "\x7d" ∈ closers)
  refine ⟨?_, (code style s).preface ++ (header ++ " \x7b") :: fs.flatMap (· ++ [""]),
    gs.flatMap ("" :: ·) ++ ["\x7d"], ?_, ?_⟩
  · rw [hlines]
    simpa using hpreface.append hblock
  · rw [hlines]
    simp
  · -- What stands around `associate` is without a chain, and so are the two lines of the block.
    have hopen := hheader.does width 0
    have hclose : Does (indented width 0 "\x7d") false true false false :=
      does_closer (by decide) width 0
    rw [indented_zero] at hopen hclose
    simp only [List.forall_mem_append, List.forall_mem_cons]
    exact ⟨⟨hpreface.noChain, ⟨hopen.begins, hopen.ends⟩, hbefore.noChain⟩, hafter.noChain,
      ⟨hclose.begins, hclose.ends⟩, by simp⟩

/-! ### The companion of a summary -/

/-- The companion of a summary is laid out. -/
theorem isLaidOut : IsLaidOut style s ((code style s).text style.indentWidth) := by
  have hlines := lines_text h hruntime htypes style.indentWidth
  obtain ⟨hnests, hchain⟩ := nests_lines_code h hruntime htypes style.indentWidth
  constructor
  · refine ⟨unlines ((code style s).front ++
      [""].intercalate ((code style s).groups style.indentWidth)), ?_⟩
    rw [Code.text_eq_unlines, Code.lines, ← List.append_assoc, unlines_append]
    rfl
  · exact ⟨_, by rw [hlines]; rfl,
      (isSolid_heads h style _ List.mem_cons_self _ List.mem_cons_self).shows⟩
  · intro before blank after hsplit hblank
    exact isBlankPlace h hruntime htypes hblank (hlines ▸ hsplit)
  · rw [hlines, countP_isBlank h hruntime htypes]
  · rw [hlines]
    exact hnests.isNested
  · rw [hlines]
    exact ⟨hnests.count, hchain⟩

end

/-- What is generated is laid out if the types and the path to the runtime are
on one line each. -/
theorem generate_laid_out {style : Style} {s : Summary} {text : String}
    (h : generate style s = .ok text) (hruntime : '\n' ∉ style.runtime.toList)
    (htypes : ∀ p ∈ s.parameters, '\n' ∉ p.type.toList) : IsLaidOut style s text := by
  obtain ⟨hdefect, rfl⟩ := generate_ok_iff.mp h
  exact isLaidOut hdefect hruntime htypes

/-- No constant, two parameters, and a type that ends in a brace. -/
theorem isLaidOut_shape : ∃ text,
    generate ⟨"rt", 3⟩
        ⟨"a::b", "Shape", [], [⟨"sides", "[u8; \x7b 2 \x7d]"⟩, ⟨"type", "Kind \x7b"⟩]⟩ = .ok text ∧
      IsLaidOut ⟨"rt", 3⟩
        ⟨"a::b", "Shape", [], [⟨"sides", "[u8; \x7b 2 \x7d]"⟩, ⟨"type", "Kind \x7b"⟩]⟩ text := by
  have h : (⟨"a::b", "Shape", [], [⟨"sides", "[u8; \x7b 2 \x7d]"⟩, ⟨"type", "Kind \x7b"⟩]⟩ :
      Summary).defect? = none := by decide +kernel
  exact ⟨_, generate_ok_iff.mpr ⟨h, rfl⟩,
    generate_laid_out (generate_ok_iff.mpr ⟨h, rfl⟩) (by decide) (by decide)⟩

end Companion

end EnumCompanion
