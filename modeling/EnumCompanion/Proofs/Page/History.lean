import EnumCompanion.Page
import EnumCompanion.Proofs.Text.Lines
import Mathlib.Data.List.DropRight

/-!
# `EnumCompanion.Proofs.Page.History`: a page told from its steps

A page keeps a level and two marks, and each step changes some of them. Here all of
it is told from the steps that were taken, whether or not they balance: the level
from what went in and out, and whether a blank line is due from what happened since
the last line and what that line was. What a page holds is then a list of lines, one
for each step that writes one, and the width of a level comes in only when the
margins of these are spelt out.

* `told`: the page that steps call for, each of its fields told from them.
* `told_apply`: a step more, one case for each kind of step. `drawn_eq_told` follows by
  induction from the last step.
* `level_le_iff`: what the level counts, without going through the steps one by one.
* `content_written`: the width makes no difference behind the margins.
* `drawn_lines`: all of this together, for any steps.
-/

set_option autoImplicit false

namespace EnumCompanion.Page

open EnumCompanion.Text

/-! ### What a step does -/

namespace Step

/-- The words on the line of a step, if it writes one. -/
@[simp] def words? : Step → Option String
  | line content => some content
  | openBlock header => some (header ++ " \x7b")
  | closeBlock => some "\x7d"
  | closeBlockWith closer => some closer
  | separate | indent | dedent => none

/-- Whether a step writes a line. -/
def writes (s : Step) : Bool :=
  s.words?.isSome

/-- Whether a step opens a block. -/
@[simp] def opens : Step → Bool
  | openBlock _ => true
  | _ => false

/-- Whether a step closes a block. -/
@[simp] def closes : Step → Bool
  | closeBlock | closeBlockWith _ => true
  | _ => false

/-- Whether a step goes one level in, behind its line if it writes one. -/
@[simp] def goesIn : Step → Bool
  | indent | openBlock _ => true
  | _ => false

/-- Whether a step goes one level out, in front of its line if it writes one. -/
@[simp] def goesOut : Step → Bool
  | dedent | closeBlock | closeBlockWith _ => true
  | _ => false

end Step

/-! ### What steps leave -/

/-- The level behind steps: those that go in count up and those that go out count down,
but there is nothing further out than the page. -/
def level (steps : List Step) : Nat :=
  steps.foldl (fun n s => n + s.goesIn.toNat - s.goesOut.toNat) 0

/-- The steps since the last line. -/
def sinceLine (steps : List Step) : List Step :=
  steps.rtakeWhile fun s => !s.writes

/-- The last step that wrote a line. -/
def lastLine? (steps : List Step) : Option Step :=
  (steps.filter Step.writes).getLast?

/-- Whether a blank line has been asked for since the last line. -/
def asksBlank (steps : List Step) : Bool :=
  (sinceLine steps).contains .separate

/-- Whether there is a line before, and it opened no block. -/
def goesOnBlock (steps : List Step) : Bool :=
  (lastLine? steps).any fun last => !last.opens

variable (steps : List Step) (s : Step)

theorem level_concat :
    level (steps ++ [s]) = level steps + s.goesIn.toNat - s.goesOut.toNat := by
  simp [level]

theorem countP_concat (p : Step → Bool) :
    (steps ++ [s]).countP p = steps.countP p + (p s).toNat := by
  rw [List.countP_append, List.countP_singleton]
  cases p s <;> rfl

/-- A blank line has been asked for if it had been before, or is now, and no line has
come since. -/
theorem asksBlank_concat :
    asksBlank (steps ++ [s]) = (!s.writes && (asksBlank steps || s == .separate)) := by
  rw [asksBlank, sinceLine, List.rtakeWhile_concat]
  cases hwrites : s.writes
  · show (sinceLine steps ++ [s]).contains .separate = _
    rw [List.contains_append, asksBlank, Bool.not_false, Bool.true_and, List.contains_cons,
      BEq.comm (a := s)]
    simp
  · rfl

/-- The last line is the new one, if there is one. -/
theorem goesOnBlock_concat :
    goesOnBlock (steps ++ [s]) = if s.writes then !s.opens else goesOnBlock steps := by
  cases hwrites : s.writes <;> simp [goesOnBlock, lastLine?, hwrites]

/-- The level is the most by which a stretch of steps that ends here goes in more often
than out: it is within a bound exactly if this is so of each of them. -/
theorem level_le_iff (n : Nat) :
    level steps ≤ n ↔ ∀ stretch, stretch <:+ steps →
      stretch.countP Step.goesIn ≤ n + stretch.countP Step.goesOut := by
  induction steps using List.reverseRecOn generalizing n with
  | nil => simp [level]
  | append_singleton steps s ih =>
    have hbefore := ih (n + s.goesOut.toNat - s.goesIn.toNat)
    rw [level_concat]
    constructor
    · intro hlevel stretch hstretch
      rcases List.suffix_concat_iff.mp hstretch with rfl | ⟨front, rfl, hfront⟩
      · exact Nat.zero_le _
      · have hle := hbefore.mp (by omega) front hfront
        rw [countP_concat, countP_concat]
        omega
    · intro hstretches
      have hmore : ∀ stretch, stretch <:+ steps →
          stretch.countP Step.goesIn + s.goesIn.toNat ≤
            n + (stretch.countP Step.goesOut + s.goesOut.toNat) := by
        intro stretch hstretch
        rw [← countP_concat, ← countP_concat]
        exact hstretches _ (List.suffix_concat_iff.mpr (.inr ⟨stretch, rfl, hstretch⟩))
      -- The last step is a stretch by itself, so the bound for those before it is not cut off.
      have hlast : s.goesIn.toNat ≤ n + s.goesOut.toNat := by
        simpa using hmore [] List.nil_suffix
      have hle : level steps ≤ n + s.goesOut.toNat - s.goesIn.toNat := by
        refine hbefore.mpr ?_
        intro stretch hstretch
        have := hmore stretch hstretch
        omega
      omega

/-! ### The lines that steps write -/

/-- A line of a page: whether a blank line sets it off, its level, and its words. -/
structure Line where
  setOff : Bool
  level : Nat
  words : String
  deriving DecidableEq, Repr

/-- A line as it is written, for a width of the levels. -/
def Line.text (width : Nat) (l : Line) : String :=
  (if l.setOff then "\n" else "") ++ indented width l.level l.words ++ "\n"

/-- The line of a step behind others, if it writes one. A blank line sets it off if one
has been asked for since the last line, that line opened no block, and this one closes
none. -/
def lineBehind? (before : List Step) (s : Step) : Option Line :=
  s.words?.map fun words =>
    { setOff := asksBlank before && goesOnBlock before && !s.closes
      level := level before - s.goesOut.toNat
      words }

/-- The lines of steps behind others. -/
def linesBehind (before : List Step) : List Step → List Line
  | [] => []
  | s :: rest => (lineBehind? before s).toList ++ linesBehind (before ++ [s]) rest

/-- The text of lines, one after the other. -/
def written (width : Nat) (ls : List Line) : String :=
  String.join (ls.map (Line.text width))

theorem linesBehind_concat (before : List Step) :
    linesBehind before (steps ++ [s]) =
      linesBehind before steps ++ (lineBehind? (before ++ steps) s).toList := by
  induction steps generalizing before with
  | nil => simp [linesBehind]
  | cons first rest ih => simp [linesBehind, ih]

theorem written_append (width : Nat) (ls ms : List Line) :
    written width (ls ++ ms) = written width ls ++ written width ms := by
  simp [written]

/-! ### The page that steps make -/

/-- The page that steps make of the empty one. -/
def drawn (width : Nat) (steps : List Step) : Page :=
  steps.foldl apply (empty width)

/-- The page that steps call for. -/
def told (width : Nat) (steps : List Step) : Page where
  width := width
  text := written width (linesBehind [] steps)
  depth := level steps
  wantsBlank := asksBlank steps
  atBlockStart := !goesOnBlock steps

/-- Writing a line adds it, set off if a blank line is due. -/
theorem line_eq (p : Page) (content : String) :
    p.line content =
      { p with
        text := p.text ++ Line.text p.width ⟨p.wantsBlank && !p.atBlockStart, p.depth, content⟩
        wantsBlank := false
        atBlockStart := false } := by
  simp [line, Line.text, indented, margin, String.append_assoc]

/-- One step more adds its line to what the steps before it called for. -/
theorem told_concat (width : Nat) :
    told width (steps ++ [s]) =
      { width
        text := (told width steps).text ++ (lineBehind? steps s).elim "" (Line.text width)
        depth := level steps + s.goesIn.toNat - s.goesOut.toNat
        wantsBlank := !s.writes && (asksBlank steps || s == .separate)
        atBlockStart := if s.writes then s.opens else !goesOnBlock steps } := by
  have htext : written width (linesBehind [] (steps ++ [s])) =
      written width (linesBehind [] steps) ++ (lineBehind? steps s).elim "" (Line.text width) := by
    rw [linesBehind_concat, written_append, List.nil_append]
    cases lineBehind? steps s <;> simp [written]
  rw [told, htext, level_concat, asksBlank_concat, goesOnBlock_concat]
  cases s.writes <;> simp [told]

/-- A step changes the page as it changes what the steps call for. -/
theorem told_apply (width : Nat) : (told width steps).apply s = told width (steps ++ [s]) := by
  rw [told_concat]
  cases s with
  | line content => simp [apply, line_eq, told, lineBehind?, Step.writes]
  | separate => simp [apply, separate, told, lineBehind?, Step.writes]
  | indent => simp [apply, indent, told, lineBehind?, Step.writes]
  | dedent => simp [apply, dedent, told, lineBehind?, Step.writes]
  | openBlock header => simp [apply, openBlock, line_eq, indent, told, lineBehind?, Step.writes]
  | closeBlock =>
    simp [apply, closeBlock, closeBlockWith, dedent, line_eq, told, lineBehind?, Step.writes]
  | closeBlockWith closer =>
    simp [apply, closeBlockWith, dedent, line_eq, told, lineBehind?, Step.writes]

/-- The page is the one that its steps call for. -/
theorem drawn_eq_told (width : Nat) : drawn width steps = told width steps := by
  induction steps using List.reverseRecOn with
  | nil => rfl
  | append_singleton steps s ih =>
    have hstep : drawn width (steps ++ [s]) = (drawn width steps).apply s :=
      List.foldl_concat ..
    rw [hstep, ih, told_apply]

/-! ### The width of a level -/

/-- The width shows in the margin of a line only. -/
theorem content_text (width other : Nat) (l : Line) :
    (lines (l.text width)).map content = (lines (l.text other)).map content := by
  obtain ⟨setOff, level, words⟩ := l
  have hwords : (lines (indented width level words ++ "\n")).map content =
      (lines (indented other level words ++ "\n")).map content := by
    rw [content_lines_indented, content_lines_indented]
  cases setOff with
  | false => simpa [Line.text] using hwords
  | true =>
    -- The blank line is a line of its own, in front of the others.
    have hblank : ∀ w, Line.text w ⟨true, level, words⟩ =
        "" ++ ("\n" ++ (indented w level words ++ "\n")) := by
      simp [Line.text, String.append_assoc]
    rw [hblank, hblank, lines_cons (by simp), lines_cons (by simp), List.map_cons, List.map_cons,
      hwords]

/-- So it does in the margins of lines only. -/
theorem content_written (width other : Nat) (ls : List Line) :
    (lines (written width ls)).map content = (lines (written other ls)).map content := by
  induction ls with
  | nil => rfl
  | cons l ls ih =>
    -- A line ends in a line feed, and those behind it begin anew.
    have hcons : ∀ w, lines (written w (l :: ls)) = lines (l.text w) ++ lines (written w ls) := by
      intro w
      have hsplit : written w (l :: ls) = l.text w ++ written w ls := by simp [written]
      rw [hsplit, Line.text, lines_append]
    rw [hcons, hcons, List.map_append, List.map_append, ih, content_text width other l]

/-! ### What a page holds -/

/-- For any steps, whether or not they balance, and for any width: the text is that of
their lines, one after the other. The level is the most by which a stretch of steps that
ends here goes in more often than out. A step more adds its line, if it writes one, and
changes nothing before it. For another width the lines have the same content. -/
theorem drawn_lines (steps : List Step) :
    (∀ width, (drawn width steps).text = written width (linesBehind [] steps)) ∧
    (∀ n, level steps ≤ n ↔ ∀ stretch, stretch <:+ steps →
      stretch.countP Step.goesIn ≤ n + stretch.countP Step.goesOut) ∧
    (∀ width s, (drawn width (steps ++ [s])).text =
      (drawn width steps).text ++ (lineBehind? steps s).elim "" (Line.text width)) ∧
    ∀ width other, (lines (drawn width steps).text).map content =
      (lines (drawn other steps).text).map content := by
  refine ⟨?_, level_le_iff steps, ?_, ?_⟩
  · intro width
    rw [drawn_eq_told]
    rfl
  · intro width s
    rw [drawn_eq_told, drawn_eq_told, told_concat]
  · intro width other
    rw [drawn_eq_told, drawn_eq_told]
    exact content_written width other _

/-- Blank lines asked for in front of a closer, twice, and in front of an opener, and
more steps out than in. -/
example :
    (drawn 2 [.dedent, .openBlock "a", .separate, .closeBlock, .closeBlock, .separate, .separate,
      .openBlock "b", .separate, .line "c", .indent, .line "d"]).text =
        "a \x7b\n\x7d\n\x7d\n\nb \x7b\n  c\n    d\n" := by
  decide +kernel

end EnumCompanion.Page
