import EnumCompanion.Proofs.Text.Lines
import EnumCompanion.Text.Blank

/-!
# `EnumCompanion.Proofs.Text.Nesting`: lines and the blocks they stand in

How deep a line stands is read from the lines before it: a line that ends in
a brace opens a block, and one that begins with a brace closes one. A method
chain goes on from `.into_iter()` to `.collect()`, and is one level deeper.

`IsNested` says that every line of a text has the margin that these call for.
Texts are put together from stretches that leave no block and no chain open,
and `Nests` says of such a stretch that it stands right at a level, wherever
that is the level.

* `Nests.append`, `nests_line`, `nests_blank`, `Nests.block` and
  `Nests.chain`: how stretches are put together.
* `Nests.isNested`: a stretch at the outermost level is a text.
-/

set_option autoImplicit false

namespace EnumCompanion.Text

/-! ### What a line does -/

/-- Whether a line opens a block: it ends in a brace. -/
def opensBlock (line : String) : Bool :=
  line.toList.getLast? == some '\x7b'

/-- Whether a line closes a block: it begins with a brace, behind its margin. -/
def closesBlock (line : String) : Bool :=
  (content line).head? == some '\x7d'

/-- Whether a method chain goes on from this line. -/
def beginsChain (line : String) : Bool :=
  content line == ".into_iter()".toList

/-- Whether a method chain goes on to this line, and no further. -/
def endsChain (line : String) : Bool :=
  content line == ".collect()".toList

/-- The number of blocks that lines open and do not close. -/
def openBlocks (ls : List String) : Int :=
  ls.countP opensBlock - ls.countP closesBlock

/-- The number of chains that lines begin and do not end. -/
def openChains (ls : List String) : Int :=
  ls.countP beginsChain - ls.countP endsChain

/-! ### Where a line stands -/

/-- The number of blocks that a line stands in, behind the given lines. A line
that closes a block stands outside of it. -/
def blockDepth (before : List String) (line : String) : Int :=
  openBlocks before - if closesBlock line then 1 else 0

/-- The number of chains that a line goes on. -/
def chainDepth (before : List String) (line : String) : Int :=
  openChains before + if beginsChain line then 1 else 0

/-- A line has the margin of its level, and no block is closed that is not open,
nor a chain ended that does not go on. Blank lines have no margin. -/
structure IsAligned (width : Nat) (before : List String) (line : String) : Prop where
  blocks : 0 ≤ blockDepth before line
  chains : 0 ≤ openChains before
  margin : isBlank line = false →
    (indentation line : Int) = width * (blockDepth before line + chainDepth before line)

/-- Every line has the margin of its level, and in the end all blocks are closed
and all chains have ended. -/
structure IsNested (width : Nat) (ls : List String) : Prop where
  aligned : ∀ before line after, ls = before ++ line :: after → IsAligned width before line
  closed : openBlocks ls = 0
  ended : openChains ls = 0

/-! ### Lines in a row -/

@[simp] theorem openBlocks_nil : openBlocks [] = 0 := rfl

@[simp] theorem openChains_nil : openChains [] = 0 := rfl

@[simp] theorem openBlocks_cons (l : String) (ls : List String) :
    openBlocks (l :: ls) =
      (if opensBlock l then 1 else 0) - (if closesBlock l then 1 else 0) + openBlocks ls := by
  simp only [openBlocks, List.countP_cons]
  split <;> split <;> omega

@[simp] theorem openChains_cons (l : String) (ls : List String) :
    openChains (l :: ls) =
      (if beginsChain l then 1 else 0) - (if endsChain l then 1 else 0) + openChains ls := by
  simp only [openChains, List.countP_cons]
  split <;> split <;> omega

@[simp] theorem openBlocks_append (ls ms : List String) :
    openBlocks (ls ++ ms) = openBlocks ls + openBlocks ms := by
  simp only [openBlocks, List.countP_append]
  omega

@[simp] theorem openChains_append (ls ms : List String) :
    openChains (ls ++ ms) = openChains ls + openChains ms := by
  simp only [openChains, List.countP_append]
  omega

/-- Lines that are aligned behind others. -/
def AlignedBehind (width : Nat) (front ls : List String) : Prop :=
  ∀ before line after, ls = before ++ line :: after → IsAligned width (front ++ before) line

theorem alignedBehind_nil (width : Nat) (front : List String) : AlignedBehind width front [] := by
  intro before line after h
  cases before <;> cases h

theorem alignedBehind_cons {width : Nat} {front : List String} {l : String} {ls : List String}
    (hl : IsAligned width front l) (hls : AlignedBehind width (front ++ [l]) ls) :
    AlignedBehind width front (l :: ls) := by
  intro before line after h
  cases before with
  | nil =>
    obtain ⟨rfl, -⟩ := List.cons.inj h
    simpa using hl
  | cons b before =>
    obtain ⟨rfl, hrest⟩ := List.cons.inj h
    simpa using hls before line after hrest

theorem alignedBehind_append {width : Nat} {front ls ms : List String}
    (hls : AlignedBehind width front ls) (hms : AlignedBehind width (front ++ ls) ms) :
    AlignedBehind width front (ls ++ ms) := by
  -- Each line of `ls` goes over to the front, so that `ms` still stands behind all of it.
  induction ls generalizing front with
  | nil => simpa using hms
  | cons l ls ih =>
    have hl : IsAligned width front l := by simpa using hls [] l ls rfl
    refine alignedBehind_cons hl (ih ?_ (by simpa using hms))
    intro before line after h
    simpa using hls (l :: before) line after (congrArg (l :: ·) h)

/-! ### Lines with a margin -/

/-- What a line does: whether it opens or closes a block, and whether it begins
or ends a chain. -/
structure Does (line : String) (opens closes begins ends : Bool) : Prop where
  opens : opensBlock line = opens
  closes : closesBlock line = closes
  begins : beginsChain line = begins
  ends : endsChain line = ends

namespace Does

variable {line : String} {opens closes begins ends : Bool}

/-- What a line does is what it adds to the open blocks and chains. -/
theorem openBlocks_eq (h : Does line opens closes begins ends) :
    openBlocks [line] = opens.toNat - closes.toNat := by
  rw [openBlocks_cons, h.opens, h.closes, openBlocks_nil]
  cases opens <;> cases closes <;> rfl

theorem openChains_eq (h : Does line opens closes begins ends) :
    openChains [line] = begins.toNat - ends.toNat := by
  rw [openChains_cons, h.begins, h.ends, openChains_nil]
  cases begins <;> cases ends <;> rfl

theorem countP_eq (h : Does line opens closes begins ends) :
    [line].countP beginsChain = begins.toNat := by
  rw [List.countP_singleton, h.begins]
  cases begins <;> rfl

end Does

/-- What a line does is seen from its words. -/
theorem does_indented {words : String} (hhead : words.toList.head? ≠ some ' ')
    (hne : words.toList ≠ []) (width level : Nat) :
    Does (indented width level words) (words.toList.getLast? == some '\x7b')
      (words.toList.head? == some '\x7d') (words.toList == ".into_iter()".toList)
      (words.toList == ".collect()".toList) where
  opens := by rw [opensBlock, toList_indented, List.getLast?_append_of_ne_nil _ hne]
  closes := by rw [closesBlock, content_indented hhead]
  begins := by rw [beginsChain, content_indented hhead]
  ends := by rw [endsChain, content_indented hhead]

/-- A line that is one line, and not blank. -/
structure IsSolid (line : String) : Prop where
  oneLine : '\n' ∉ line.toList
  shows : isBlank line = false

/-- Words make a whole line if their first character shows. -/
theorem isSolid_indented {words : String} {c : Char} (hc : words.toList.head? = some c)
    (hvisible : isWhiteSpace c = false) (hline : '\n' ∉ words.toList) (width level : Nat) :
    IsSolid (indented width level words) where
  oneLine := lineFeed_not_mem_indented hline width level
  shows := by
    rw [isBlank, List.all_eq_false]
    exact ⟨c, by simp [toList_indented, List.mem_of_mem_head? hc], by simp [hvisible]⟩

/-- Words that show, and do not begin with a closing brace. -/
structure IsHeader (words : String) : Prop where
  shows : ∃ c, words.toList.head? = some c ∧ isWhiteSpace c = false
  noCloser : words.toList.head? ≠ some '\x7d'

/-- Words that show, neither open nor close a block, and are no part of a
chain. -/
structure IsPlainLine (words : String) : Prop extends IsHeader words where
  noChain : words.toList.head? ≠ some '.'
  noOpener : words.toList.getLast? ≠ some '\x7b'

/-- Words are a header by their first character. -/
theorem isHeader_of_head? {words : String} {c : Char} (hc : words.toList.head? = some c)
    (h : isWhiteSpace c = false ∧ c ≠ '\x7d') : IsHeader words :=
  ⟨⟨c, hc, h.1⟩, by simpa [hc] using h.2⟩

/-- Words are a plain line by their first character and their last one. -/
theorem isPlainLine_of_ends {front back : String} {c d : Char}
    (hc : (front ++ back).toList.head? = some c) (hd : back.toList.getLast? = some d)
    (h : (isWhiteSpace c = false ∧ c ≠ '\x7d') ∧ c ≠ '.' ∧ d ≠ '\x7b') :
    IsPlainLine (front ++ back) where
  toIsHeader := isHeader_of_head? hc h.1
  noChain := by
    rw [hc]
    simpa using h.2.1
  noOpener := by
    rw [String.toList_append, List.getLast?_append, hd]
    simpa using h.2.2

namespace IsHeader

variable {words : String}

theorem head?_ne_blank (h : IsHeader words) : words.toList.head? ≠ some ' ' := by
  obtain ⟨c, hc, hvisible⟩ := h.shows
  rw [hc]
  rintro ⟨⟩
  revert hvisible
  decide

theorem ne_nil (h : IsHeader words) : words.toList ≠ [] := by
  intro hnil
  obtain ⟨c, hc, -⟩ := h.shows
  rw [hnil] at hc
  cases hc

/-- A header makes a whole line. -/
theorem isSolid (h : IsHeader words) (hline : '\n' ∉ words.toList) (width level : Nat) :
    IsSolid (indented width level words) := by
  obtain ⟨c, hc, hvisible⟩ := h.shows
  exact isSolid_indented hc hvisible hline width level

/-- Behind a header comes a brace. -/
theorem head?_append (h : IsHeader words) (more : String) :
    (words ++ more).toList.head? = words.toList.head? := by
  rw [String.toList_append, List.head?_append_of_ne_nil _ h.ne_nil]

theorem append (h : IsHeader words) (more : String) : IsHeader (words ++ more) where
  shows := by
    rw [h.head?_append]
    exact h.shows
  noCloser := by
    rw [h.head?_append]
    exact h.noCloser

/-- A header with its brace opens a block. -/
theorem does (h : IsHeader words) (width level : Nat) :
    Does (indented width level (words ++ " \x7b")) true false false false := by
  have hlast : (words ++ " \x7b").toList.getLast? = some '\x7b' := by
    rw [String.toList_append, List.getLast?_append]
    rfl
  -- A line that goes on a chain ends otherwise.
  have hno : ∀ chain : List Char, chain.getLast? = some ')' →
      ((words ++ " \x7b").toList == chain) = false := by
    intro chain hchain
    rw [beq_eq_false_iff_ne]
    rintro rfl
    rw [hlast] at hchain
    cases hchain
  have hdoes := does_indented (h.append " \x7b").head?_ne_blank (h.append " \x7b").ne_nil
    width level
  rwa [hlast, hno _ rfl, hno _ rfl, beq_self_eq_true,
    beq_eq_false_iff_ne.mpr (h.append " \x7b").noCloser] at hdoes

end IsHeader

/-- A plain line does nothing. -/
theorem IsPlainLine.does {words : String} (h : IsPlainLine words) (width level : Nat) :
    Does (indented width level words) false false false false := by
  have hno : ∀ chain : List Char, chain.head? = some '.' → (words.toList == chain) = false := by
    intro chain hchain
    rw [beq_eq_false_iff_ne]
    rintro rfl
    exact h.noChain hchain
  have hdoes := does_indented h.head?_ne_blank h.ne_nil width level
  rwa [hno _ rfl, hno _ rfl, beq_eq_false_iff_ne.mpr h.noCloser,
    beq_eq_false_iff_ne.mpr h.noOpener] at hdoes

theorem IsPlainLine.opensBlock {words : String} (h : IsPlainLine words) :
    opensBlock words = false := by
  simpa using (h.does 0 0).opens

/-- The closers of a block and of a block in a chain. -/
def closers : List String := ["\x7d", "\x7d)"]

theorem does_closer {closer : String} (h : closer ∈ closers) (width level : Nat) :
    Does (indented width level closer) false true false false := by
  simp only [closers, List.mem_cons, List.not_mem_nil, or_false] at h
  rcases h with rfl | rfl
  · exact does_indented (by decide) (by decide) width level
  · exact does_indented (by decide) (by decide) width level

theorem isSolid_closer {closer : String} (h : closer ∈ closers) (width level : Nat) :
    IsSolid (indented width level closer) := by
  have hall : ∀ closer ∈ closers, closer.toList.head? = some '\x7d' ∧ '\n' ∉ closer.toList := by
    decide
  obtain ⟨hhead, hline⟩ := hall closer h
  exact isSolid_indented hhead (by decide) hline width level

/-- A line has the right margin if it is written at the level that the lines
before it call for. -/
theorem isAligned_indented {words : String} (hhead : words.toList.head? ≠ some ' ')
    {width level : Nat} {before : List String} {opens closes begins ends : Bool}
    (hdoes : Does (indented width level words) opens closes begins ends)
    (hblocks : closes.toNat ≤ openBlocks before) (hchains : 0 ≤ openChains before)
    (hlevel : openBlocks before - closes.toNat + (openChains before + begins.toNat) = level) :
    IsAligned width before (indented width level words) := by
  have hblockDepth : blockDepth before (indented width level words) =
      openBlocks before - closes.toNat := by
    rw [blockDepth, hdoes.closes]
    cases closes <;> rfl
  have hchainDepth : chainDepth before (indented width level words) =
      openChains before + begins.toNat := by
    rw [chainDepth, hdoes.begins]
    cases begins <;> rfl
  refine ⟨by rw [hblockDepth]; omega, hchains, fun _ => ?_⟩
  rw [hblockDepth, hchainDepth, hlevel, indentation_indented hhead, Int.natCast_mul]

/-! ### Stretches of a text -/

/-- Lines that stand right wherever lines at the level belong, leave no block and
no chain open, and begin so many chains. -/
structure Nests (width level chains : Nat) (ls : List String) : Prop where
  aligned : ∀ {front : List String}, 0 ≤ openBlocks front → 0 ≤ openChains front →
    openBlocks front + openChains front = level → AlignedBehind width front ls
  closed : openBlocks ls = 0
  ended : openChains ls = 0
  count : ls.countP beginsChain = chains

section

variable {width level n m : Nat} {ls ms : List String}

theorem nests_nil : Nests width level 0 [] where
  aligned _ _ _ := alignedBehind_nil _ _
  closed := rfl
  ended := rfl
  count := rfl

/-- Stretches at one level stand one behind the other. -/
theorem Nests.append (hls : Nests width level n ls) (hms : Nests width level m ms) :
    Nests width level (n + m) (ls ++ ms) where
  aligned {front} hblocks hchains hlevel :=
    alignedBehind_append (hls.aligned hblocks hchains hlevel)
      (hms.aligned (by simpa [hls.closed] using hblocks) (by simpa [hls.ended] using hchains)
        (by simpa [hls.closed, hls.ended] using hlevel))
  closed := by rw [openBlocks_append, hls.closed, hms.closed]; rfl
  ended := by rw [openChains_append, hls.ended, hms.ended]; rfl
  count := by rw [List.countP_append, hls.count, hms.count]

/-- A blank line stands anywhere. -/
theorem nests_blank : Nests width level 0 [""] where
  aligned {front} hblocks hchains _ :=
    alignedBehind_cons ⟨by simpa [blockDepth, closesBlock, content] using hblocks, hchains, nofun⟩
      (alignedBehind_nil _ _)
  closed := rfl
  ended := rfl
  count := rfl

/-- A plain line stands at its level. -/
theorem nests_line {words : String} (h : IsPlainLine words) :
    Nests width level 0 [indented width level words] := by
  have hdoes := h.does width level
  exact {
    aligned := fun {front} hblocks hchains hlevel =>
      alignedBehind_cons
        (isAligned_indented h.head?_ne_blank hdoes (by simpa using hblocks) hchains
          (by simpa using hlevel))
        (alignedBehind_nil _ _)
    closed := by simp [hdoes.opens, hdoes.closes]
    ended := by simp [hdoes.begins, hdoes.ends]
    count := by simp [hdoes.begins] }

/-- So do several of them. -/
theorem nests_lines {ws : List String} (h : ∀ w ∈ ws, IsPlainLine w) :
    Nests width level 0 (ws.map (indented width level)) := by
  induction ws with
  | nil => exact nests_nil
  | cons w ws ih =>
    obtain ⟨hw, hws⟩ := List.forall_mem_cons.mp h
    exact (nests_line hw).append (ih hws)

/-- A stretch without a chain has no line of one. -/
theorem Nests.noChain (h : Nests width level 0 ls) :
    ∀ l ∈ ls, beginsChain l = false ∧ endsChain l = false := by
  have hbegins := List.countP_eq_zero.mp h.count
  have hends : ls.countP endsChain = 0 := by
    -- As many end as begin, and none begins.
    have hended := h.ended
    rw [openChains, h.count] at hended
    omega
  exact fun l hl => ⟨by simpa using hbegins l hl,
    by simpa using List.countP_eq_zero.mp hends l hl⟩

/-- What opens a block or begins a chain, and what closes or ends it, holds a stretch
one level deeper. The lines of a chain are a level deeper themselves. -/
theorem Nests.around {first last : String} (begins : Bool) (hbody : Nests width (level + 1) n ls)
    (hfirst : first.toList.head? ≠ some ' ') (hlast : last.toList.head? ≠ some ' ')
    (hopen : Does (indented width (level + begins.toNat) first) (!begins) false begins false)
    (hclose : Does (indented width (level + begins.toNat) last) false (!begins) false begins) :
    Nests width level (n + begins.toNat) (indented width (level + begins.toNat) first ::
      (ls ++ [indented width (level + begins.toNat) last])) := by
  have hnone : (false.toNat : Int) = 0 := rfl
  have hone : (begins.toNat : Int) ≤ 1 := by cases begins <;> decide
  have hnot : ((!begins).toNat : Int) = 1 - begins.toNat := by cases begins <;> rfl
  have hopenBlocks := hopen.openBlocks_eq
  have hopenChains := hopen.openChains_eq
  have hcloseBlocks := hclose.openBlocks_eq
  have hcloseChains := hclose.openChains_eq
  have hclosed := hbody.closed
  have hended := hbody.ended
  refine ⟨fun {front} hfrontBlocks hfrontChains hlevel => ?_, ?_, ?_, ?_⟩
  · -- What is open in front of each part is what was open before the whole, and what the
    -- parts before it have opened; the level follows by counting.
    refine alignedBehind_cons (isAligned_indented hfirst hopen ?_ hfrontChains ?_)
      (alignedBehind_append (hbody.aligned ?_ ?_ ?_)
        (alignedBehind_cons (isAligned_indented hlast hclose ?_ ?_ ?_) (alignedBehind_nil _ _)))
    · omega
    · omega
    all_goals
      simp only [openBlocks_append, openChains_append]
      omega
  · rw [← List.singleton_append, openBlocks_append, openBlocks_append]
    omega
  · rw [← List.singleton_append, openChains_append, openChains_append]
    omega
  · rw [← List.singleton_append, List.countP_append, List.countP_append, hopen.countP_eq,
      hclose.countP_eq, hbody.count, Bool.toNat_false, Nat.add_zero, Nat.add_comm]

/-- A block holds a stretch one level deeper. -/
theorem Nests.block {header closer : String} (h : IsHeader header) (hcloser : closer ∈ closers)
    (hbody : Nests width (level + 1) n ls) :
    Nests width level n (indented width level (header ++ " \x7b") ::
      (ls ++ [indented width level closer])) := by
  have hhead : ∀ words ∈ closers, words.toList.head? ≠ some ' ' := by decide
  exact hbody.around false (h.append _).head?_ne_blank (hhead closer hcloser) (h.does width level)
    (does_closer hcloser width level)

/-- So does a chain. -/
theorem Nests.chain (hbody : Nests width (level + 1) n ls) :
    Nests width level (n + 1) (indented width (level + 1) ".into_iter()" ::
      (ls ++ [indented width (level + 1) ".collect()"])) :=
  hbody.around true (by decide) (by decide)
    (does_indented (by decide) (by decide) width (level + 1))
    (does_indented (by decide) (by decide) width (level + 1))

/-- A stretch at the outermost level is a text. -/
theorem Nests.isNested (h : Nests width 0 n ls) : IsNested width ls where
  aligned := by
    intro before line after hsplit
    have hall : AlignedBehind width [] ls := h.aligned (Int.le_refl 0) (Int.le_refl 0) rfl
    simpa using hall before line after hsplit
  closed := h.closed
  ended := h.ended

end

end EnumCompanion.Text
