import EnumCompanion.Text.Cut
import Mathlib.Data.List.Basic

/-!
# `EnumCompanion.Proofs.Text.Lines`: the lines of a text

A text is cut into lines at its line feeds, and put together from lines that
each get one. `lines` and `unlines` undo each other where no line holds a
line feed itself.

A line that does hold one is more than one line of the text. Lines that hold
none are found again in front of it (`lines_unlines_append`) and behind it
(`lines_append`).

`indented` gives a line its margin, and `content` takes it off again. A margin
makes no other difference to the lines of a text, whatever the words behind it
(`content_lines_indented`).
-/

set_option autoImplicit false

namespace EnumCompanion.Text

/-- The lines of a text. What stands behind the last line feed is none. -/
def lines (text : String) : List String :=
  (cutAt '\n' text.toList).dropLast.map String.ofList

/-- The text with the given lines. -/
def unlines (ls : List String) : String :=
  String.join (ls.map (· ++ "\n"))

@[simp] theorem unlines_nil : unlines [] = "" := rfl

@[simp] theorem unlines_cons (l : String) (ls : List String) :
    unlines (l :: ls) = l ++ ("\n" ++ unlines ls) := by
  simp [unlines, String.append_assoc]

@[simp] theorem unlines_append (ls ms : List String) :
    unlines (ls ++ ms) = unlines ls ++ unlines ms := by
  simp [unlines]

theorem lines_empty : lines "" = [] := rfl

/-- The first line of a text is what stands in front of its first line feed. -/
theorem lines_cons {l : String} (h : '\n' ∉ l.toList) (rest : String) :
    lines (l ++ ("\n" ++ rest)) = l :: lines rest := by
  have hcut : cutAt '\n' (l ++ ("\n" ++ rest)).toList = l.toList :: cutAt '\n' rest.toList := by
    rw [String.toList_append, String.toList_append]
    show cutAt '\n' (l.toList ++ '\n' :: rest.toList) = _
    rw [cutAt_append_cons, cutAt_of_not_mem h]
    rfl
  rw [lines, hcut, List.dropLast_cons_of_ne_nil (cutAt_ne_nil _ _), List.map_cons,
    String.ofList_toList, lines]

/-- Lines without line feeds are found again, whatever stands behind them. -/
theorem lines_unlines_append {ls : List String} (h : ∀ l ∈ ls, '\n' ∉ l.toList) (rest : String) :
    lines (unlines ls ++ rest) = ls ++ lines rest := by
  induction ls with
  | nil => simp
  | cons l ls ih =>
    obtain ⟨hl, hls⟩ := List.forall_mem_cons.mp h
    rw [unlines_cons, String.append_assoc, String.append_assoc, lines_cons hl, ih hls]
    rfl

/-- Lines without line feeds are found again. -/
theorem lines_unlines {ls : List String} (h : ∀ l ∈ ls, '\n' ∉ l.toList) :
    lines (unlines ls) = ls := by
  simpa [lines_empty] using lines_unlines_append h ""

/-- Behind a line feed, a new line begins. -/
theorem lines_append (front rest : String) :
    lines (front ++ "\n" ++ rest) = lines (front ++ "\n") ++ lines rest := by
  -- The last piece, which is no line, is the last piece of what stands behind the line feed.
  have hcut : ∀ more : List Char, cutAt '\n' (front.toList ++ '\n' :: more) =
      cutAt '\n' front.toList ++ cutAt '\n' more := cutAt_append_cons '\n' front.toList
  have hwhole : (front ++ "\n" ++ rest).toList = front.toList ++ '\n' :: rest.toList := by simp
  have hfront : (front ++ "\n").toList = front.toList ++ '\n' :: [] := by simp
  rw [lines, lines, lines, hwhole, hfront, hcut, hcut,
    List.dropLast_append_of_ne_nil (cutAt_ne_nil _ _), List.map_append, cutAt,
    List.dropLast_concat]

/-- So it does behind any lines. -/
theorem lines_append_of_unlines (ls : List String) (rest : String) :
    lines (unlines ls ++ rest) = lines (unlines ls) ++ lines rest := by
  induction ls with
  | nil => simp [lines_empty]
  | cons l ls ih =>
    rw [unlines_cons, ← String.append_assoc, String.append_assoc, lines_append, ih, lines_append,
      List.append_assoc]

/-! ### Margins -/

/-- A line that stands at a level. -/
def indented (width level : Nat) (words : String) : String :=
  String.ofList (List.replicate (width * level) ' ') ++ words

/-- The number of spaces that a line begins with. -/
def indentation (line : String) : Nat :=
  (line.toList.takeWhile (· == ' ')).length

/-- What stands on a line behind these. -/
def content (line : String) : List Char :=
  line.toList.dropWhile (· == ' ')

theorem toList_indented (width level : Nat) (words : String) :
    (indented width level words).toList =
      List.replicate (width * level) ' ' ++ words.toList := by
  simp [indented]

/-- A line at the outermost level has no margin. -/
@[simp] theorem indented_zero (width : Nat) (words : String) : indented width 0 words = words := by
  simp [indented]

variable {words : String}

/-- Behind the margin of a line, its words begin. -/
theorem content_indented (h : words.toList.head? ≠ some ' ') (width level : Nat) :
    content (indented width level words) = words.toList := by
  rw [content, toList_indented, List.dropWhile_append_of_pos fun c hc => by
    simpa using List.eq_of_mem_replicate hc]
  cases hwords : words.toList with
  | nil => rfl
  | cons c rest =>
    rw [hwords] at h
    rw [List.dropWhile_cons_of_neg (by simpa using h)]

/-- The margin of a line is all of its indentation. -/
theorem indentation_indented (h : words.toList.head? ≠ some ' ') (width level : Nat) :
    indentation (indented width level words) = width * level := by
  rw [indentation, toList_indented, List.takeWhile_append_of_pos fun c hc => by
    simpa using List.eq_of_mem_replicate hc]
  cases hwords : words.toList with
  | nil => simp
  | cons c rest =>
    rw [hwords] at h
    rw [List.takeWhile_cons_of_neg (by simpa using h)]
    simp

/-- Spaces in front of a text make no difference to the content of its lines. -/
theorem content_cutAt_spaces (n : Nat) (cs : List Char) :
    (cutAt '\n' (List.replicate n ' ' ++ cs)).map (List.dropWhile (· == ' ')) =
      (cutAt '\n' cs).map (List.dropWhile (· == ' ')) := by
  induction n with
  | zero => rfl
  | succ n ih =>
    rw [← ih, List.replicate_succ, List.cons_append, cutAt, if_neg (by decide)]
    -- The space goes to the first piece, and is taken off there.
    cases hcut : cutAt '\n' (List.replicate n ' ' ++ cs) with
    | nil => exact absurd hcut (cutAt_ne_nil _ _)
    | cons piece pieces => simp

theorem content_lines (text : String) :
    (lines text).map content =
      ((cutAt '\n' text.toList).map (List.dropWhile (· == ' '))).dropLast := by
  rw [lines, List.map_map, List.map_dropLast]
  congr 2
  funext piece
  simp [content]

/-- What lines hold behind their margins does not depend on the margin of the words
that they are, also where these are several lines. -/
theorem content_lines_indented (width level : Nat) (words : String) :
    (lines (indented width level words ++ "\n")).map content =
      (lines (words ++ "\n")).map content := by
  rw [content_lines, content_lines, String.toList_append, toList_indented, List.append_assoc,
    content_cutAt_spaces, String.toList_append]

/-- A margin holds no line feed. -/
theorem lineFeed_not_mem_indented (h : '\n' ∉ words.toList) (width level : Nat) :
    '\n' ∉ (indented width level words).toList := by
  simp [toList_indented, h]

end EnumCompanion.Text
