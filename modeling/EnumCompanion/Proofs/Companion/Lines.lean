import EnumCompanion.Proofs.Companion.Readback
import EnumCompanion.Proofs.Name.Fresh
import EnumCompanion.Proofs.Text.Escape
import EnumCompanion.Proofs.Text.Groups

/-!
# `EnumCompanion.Proofs.Companion.Lines`: the lines of a companion

What a page holds in the end is said here line by line, each line with its
margin. The lines of a statement follow its shape, those of a function are
its header, its body and a brace, and those of a companion are the lines in
front, the member groups with a blank line between two of them, and a brace.

* `Stmt.write_lines` and `Function.block_eq`: what writing adds are these
  lines, in a mutual induction over statements.
* `Code.heads` and `Code.groups`: the groups of lines in front of the members,
  and those of the members: the constants, if there are any, and each function.
* `Code.text_eq_unlines`: the text of a companion is these lines.
-/

set_option autoImplicit false

namespace EnumCompanion

open EnumCompanion.Text

/-! ### Lines on a page -/

namespace Page

variable {p : Page}

/-- A line is added at the level of the page, if no blank line is due. -/
theorem line_text (hblank : p.wantsBlank = false) (content : String) :
    (p.line content).text = p.text ++ unlines [indented p.width p.depth content] := by
  simp [line, hblank, margin, indented, String.append_assoc]

theorem openBlock_text (hblank : p.wantsBlank = false) (header : String) :
    (p.openBlock header).text =
      p.text ++ unlines [indented p.width p.depth (header ++ " \x7b")] :=
  line_text hblank _

theorem closeBlockWith_text (closer : String) :
    (p.closeBlockWith closer).text =
      p.text ++ unlines [indented p.width (p.depth - 1) closer] := by
  simp [closeBlockWith, line, dedent, margin, indented, String.append_assoc]

end Page

namespace Companion

/-! ### Statements -/

mutual

/-- The lines of a statement that stands at a level. -/
def Stmt.lines (width level : Nat) : Stmt → List String
  | .forEach x items body =>
    indented width level ("for " ++ Name.spelling x ++ " in " ++ items.text ++ " \x7b") ::
      (linesOf width (level + 1) body ++ [indented width level "\x7d"])
  | .ifThen condition body =>
    indented width level ("if " ++ condition.text ++ " \x7b") ::
      (linesOf width (level + 1) body ++ [indented width level "\x7d"])
  | .giveBack value => [indented width level ("return " ++ value.text ++ ";")]
  | .bind x value =>
    [indented width level ("let " ++ Name.spelling x ++ " = " ++ value.text ++ ";")]
  | .result value => [indented width level value.text]
  | .collect items x body =>
    indented width level items.text :: indented width (level + 1) ".into_iter()" ::
      indented width (level + 1) (".map(|" ++ Name.spelling x ++ "| \x7b") ::
      (linesOf width (level + 2) body ++
        [indented width (level + 1) "\x7d)", indented width (level + 1) ".collect()"])

/-- The lines of statements that stand at a level. -/
def linesOf (width level : Nat) : List Stmt → List String
  | [] => []
  | s :: rest => s.lines width level ++ linesOf width level rest

end

/-- A block adds its header, what its body adds, and its closer. -/
theorem block_text {p : Page} (hblank : p.wantsBlank = false) (header closer : String)
    {body : List Stmt} {ls : List String}
    (hbody : (writeAll body (p.openBlock header)).text = (p.openBlock header).text ++ unlines ls) :
    ((writeAll body (p.openBlock header)).closeBlockWith closer).text =
      p.text ++ unlines (indented p.width p.depth (header ++ " \x7b") ::
        (ls ++ [indented p.width p.depth closer])) := by
  obtain ⟨hdepth, hwidth⟩ := writeAll_depth (p.openBlock header) body
  rw [Page.closeBlockWith_text, hbody, hdepth, hwidth, Page.openBlock_text hblank]
  simp [String.append_assoc]

mutual

/-- Writing a statement adds its lines, and leaves no blank line due. -/
theorem Stmt.write_lines : ∀ (s : Stmt) {p : Page}, p.wantsBlank = false →
    (s.write p).text = p.text ++ unlines (s.lines p.width p.depth) ∧ (s.write p).wantsBlank = false
  | .forEach x items body, p, hblank => by
    obtain ⟨hbody, -⟩ := writeAll_lines body
      (p := p.openBlock ("for " ++ Name.spelling x ++ " in " ++ items.text)) rfl
    exact ⟨block_text hblank _ "\x7d" hbody, rfl⟩
  | .ifThen condition body, p, hblank => by
    obtain ⟨hbody, -⟩ := writeAll_lines body (p := p.openBlock ("if " ++ condition.text)) rfl
    exact ⟨block_text hblank _ "\x7d" hbody, rfl⟩
  | .giveBack value, p, hblank => ⟨Page.line_text hblank _, rfl⟩
  | .bind x value, p, hblank => ⟨Page.line_text hblank _, rfl⟩
  | .result value, p, hblank => ⟨Page.line_text hblank _, rfl⟩
  | .collect items x body, p, hblank => by
    let chain := (p.line items.text).indent.line ".into_iter()"
    let header := ".map(|" ++ Name.spelling x ++ "|"
    obtain ⟨hbody, -⟩ := writeAll_lines body (p := chain.openBlock header) rfl
    obtain ⟨hdepth, hwidth⟩ := writeAll_depth (chain.openBlock header) body
    have hchain : chain.text =
        p.text ++ unlines [indented p.width p.depth items.text,
          indented p.width (p.depth + 1) ".into_iter()"] := by
      rw [Page.line_text (p := (p.line items.text).indent) rfl]
      show (p.line items.text).text ++ _ = _
      rw [Page.line_text hblank]
      simp [Page.indent, String.append_assoc]
    have hmapped := block_text (p := chain) rfl header "\x7d)" hbody
    refine ⟨?_, rfl⟩
    let block := (writeAll body (chain.openBlock header)).closeBlockWith "\x7d)"
    -- What follows the block is written at the level of the chain.
    show (block.line ".collect()").text = _
    rw [Page.line_text rfl, hmapped, hchain, Page.closeBlockWith_depth, Page.closeBlockWith_width,
      hdepth, hwidth]
    simp [Stmt.lines, chain, header, Page.indent, String.append_assoc]

/-- So does writing statements one after the other. -/
theorem writeAll_lines : ∀ (ss : List Stmt) {p : Page}, p.wantsBlank = false →
    (writeAll ss p).text = p.text ++ unlines (linesOf p.width p.depth ss) ∧
      (writeAll ss p).wantsBlank = false
  | [], p, hblank => ⟨by simp [writeAll, linesOf], hblank⟩
  | s :: rest, p, hblank => by
    obtain ⟨hs, hsblank⟩ := s.write_lines hblank
    obtain ⟨hrest, hrestblank⟩ := writeAll_lines rest hsblank
    obtain ⟨hdepth, hwidth⟩ := Stmt.write_depth p s
    refine ⟨?_, hrestblank⟩
    rw [writeAll, hrest, hs, hdepth, hwidth, linesOf, unlines_append, String.append_assoc]

end

/-! ### Functions -/

namespace Function

/-- The lines of a function inside a companion. -/
def lines (width : Nat) (f : Function) : List String :=
  indented width 1 (f.header ++ " \x7b") ::
    (linesOf width 2 f.body ++ [indented width 1 "\x7d"])

/-- The block of a function is its lines. -/
theorem block_eq (f : Function) (width : Nat) : f.block width = unlines (f.lines width) := by
  -- The body is written on a page of its own, at the level of a body among members.
  obtain ⟨hbody, -⟩ := writeAll_lines f.body (p := ⟨width, "", 2, false, true⟩) rfl
  obtain ⟨hdepth, hwidth⟩ := writeAll_depth ⟨width, "", 2, false, true⟩ f.body
  rw [block, tail, Page.closeBlock, Page.closeBlockWith_text, hbody, hdepth, hwidth,
    ← String.toList_inj]
  simp [lines, indented]

end Function

/-! ### Members -/

/-- The constants stand on a line each. -/
theorem constantLines_eq (width : Nat) (names : List String) :
    constantLines width names =
      unlines (names.map fun name => indented width 1 (constantLine name)) := by
  induction names with
  | nil => rfl
  | cons name rest ih =>
    rw [constantLines, ih]
    simp [indented, String.append_assoc]

/-- Functions behind something else have a blank line in front of each. -/
theorem functionLines_false (width : Nat) (fs : List Function) :
    functionLines width false fs =
      unlines ((fs.map (Function.lines width)).flatMap ("" :: ·)) := by
  induction fs with
  | nil => rfl
  | cons f rest ih =>
    rw [functionLines, ih, Function.block_eq]
    simp [String.append_assoc]

namespace Code

/-- The groups of lines in front of the members. The last one opens their block. -/
def heads (c : Code) : List (List String) :=
  [["// namespace " ++ c.scope],
    ["#[allow(non_camel_case_types)]", "pub struct " ++ c.name ++ ";"],
    ["#[allow(non_snake_case, non_upper_case_globals, dead_code, private_interfaces)]",
      "impl " ++ c.name ++ " \x7b"]]

/-- The lines in front of the members. -/
def front (c : Code) : List String :=
  [""].intercalate c.heads

/-- The group of the constants, if there are any. -/
def constantGroups (width : Nat) (c : Code) : List (List String) :=
  if c.constants = [] then []
  else [c.constants.map fun name => indented width 1 (constantLine name)]

/-- The groups of members: the constants, and each function. -/
def groups (width : Nat) (c : Code) : List (List String) :=
  c.constantGroups width ++ c.functions.map (Function.lines width)

/-- The lines of a companion. -/
def lines (width : Nat) (c : Code) : List String :=
  c.front ++ ([""].intercalate (c.groups width) ++ ["\x7d"])

/-- The text of a companion is its lines. -/
theorem text_eq_unlines (c : Code) (width : Nat) : c.text width = unlines (c.lines width) := by
  have hmembers : constantLines width c.constants ++
      functionLines width c.constants.isEmpty c.functions =
        unlines ([""].intercalate (c.groups width)) := by
    rw [constantLines_eq, groups, constantGroups]
    cases c.constants with
    | nil =>
      -- Without constants, the first function begins the block.
      cases c.functions with
      | nil => rfl
      | cons f rest =>
        rw [if_pos rfl, List.nil_append, List.map_cons, intercalate_blank_cons]
        simp [functionLines, functionLines_false, Function.block_eq]
    | cons name rest =>
      -- With constants, there is a blank line in front of every function.
      rw [if_neg (List.cons_ne_nil _ _), List.singleton_append, intercalate_blank_cons,
        unlines_append, ← functionLines_false]
      rfl
  have hfront : c.preamble = unlines c.front := by
    rw [← String.toList_inj]
    simp [preamble, front, heads]
  rw [text_eq, hfront, lines, unlines_append, unlines_append, ← hmembers, String.append_assoc]
  rfl

end Code

/-! ### Line feeds -/

section

variable {s : Summary}

/-- The names of a summary without a defect stand on one line. -/
theorem lineFeed_not_mem_names (h : s.defect? = none) : ∀ n ∈ s.names, '\n' ∉ n.toList :=
  fun n hn => Name.mark_not_mem (Summary.isIdentifier_names h n hn) (by decide)

theorem lineFeed_not_mem_spelling {n : String} (h : '\n' ∉ n.toList) :
    '\n' ∉ (Name.spelling n).toList := by
  intro hmem
  rcases Name.mem_spelling hmem with hname | hc | hc
  · exact h hname
  · cases hc
  · cases hc

theorem lineFeed_not_mem_fresh {base : String} (h : '\n' ∉ base.toList) (taken : List String) :
    '\n' ∉ (Name.fresh base taken).toList := by
  intro hmem
  rcases Name.mem_fresh hmem with hbase | hc
  · exact h hbase
  · cases hc

/-- The line of a constant is one line. -/
theorem lineFeed_not_mem_constantLine {n : String} (h : '\n' ∉ n.toList) :
    '\n' ∉ (constantLine n).toList := by
  simp [constantLine, lineFeed_not_mem_spelling h, lineFeed_not_mem_encode]

end

end Companion

end EnumCompanion
