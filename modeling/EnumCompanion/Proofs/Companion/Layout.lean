import EnumCompanion.Companion.Text

/-!
# `EnumCompanion.Proofs.Companion.Layout`: the text of a companion in pieces

A companion is written on a page step by step. What a step adds depends on
the level and on whether a blank line is due, never on the text that is
there. This module turns the page into a concatenation.

* `Page.after`: a page with more text in front. Every step commutes with
  it, and so does writing statements and functions.
* `Function.block`: the lines of a function inside a companion;
  `Function.write_eq` says that writing it adds these lines.
* `Code.text_eq`: the text of a companion is its preamble, a line for each
  constant, the blocks of its functions, set off, and a brace.
-/

set_option autoImplicit false

namespace EnumCompanion

/-! ### Pages with more text in front -/

namespace Page

/-- The page with a text in front of its own. -/
def after (t : String) (p : Page) : Page :=
  { p with text := t ++ p.text }

variable (t : String) (p : Page)

/-- A line is added behind the text in front. -/
@[simp] theorem line_after (content : String) :
    (p.after t).line content = (p.line content).after t := by
  simp [line, after, margin, String.append_assoc]

/-- Levels do not depend on the text in front. -/
@[simp] theorem indent_after : (p.after t).indent = p.indent.after t := rfl

@[simp] theorem dedent_after : (p.after t).dedent = p.dedent.after t := rfl

/-- A block is opened behind the text in front. -/
@[simp] theorem openBlock_after (header : String) :
    (p.after t).openBlock header = (p.openBlock header).after t := by
  simp only [openBlock, line_after]
  rfl

/-- A block is closed behind the text in front. -/
@[simp] theorem closeBlockWith_after (closer : String) :
    (p.after t).closeBlockWith closer = (p.closeBlockWith closer).after t := by
  simp only [closeBlockWith]
  rw [← line_after]
  rfl

@[simp] theorem closeBlock_after : (p.after t).closeBlock = p.closeBlock.after t :=
  closeBlockWith_after t p "\x7d"

/-- A step in the construction of a page keeps its width. -/
@[simp] theorem line_width (content : String) : (p.line content).width = p.width := rfl

@[simp] theorem openBlock_width (header : String) : (p.openBlock header).width = p.width := rfl

@[simp] theorem closeBlockWith_width (closer : String) :
    (p.closeBlockWith closer).width = p.width := rfl

/-- A line stays at its level, a block opens one level deeper, and what
closes it is one level out again. -/
@[simp] theorem line_depth (content : String) : (p.line content).depth = p.depth := rfl

@[simp] theorem openBlock_depth (header : String) :
    (p.openBlock header).depth = p.depth + 1 := rfl

@[simp] theorem closeBlockWith_depth (closer : String) :
    (p.closeBlockWith closer).depth = p.depth - 1 := rfl

end Page

namespace Companion

/-! ### Expressions -/

namespace Expr

section

variable (x y f : String) (e l r : Expr) (names : List String)

@[simp] theorem text_name : (name x).text = Name.spelling x := rfl

@[simp] theorem text_table : (table f).text = "Self::" ++ f ++ "()" := rfl

@[simp] theorem text_access : (access x f).text = Name.spelling x ++ "." ++ f ++ "()" := rfl

@[simp] theorem text_equal : (equal l r).text = l.text ++ " == " ++ r.text := rfl

@[simp] theorem text_found : (found e).text = resultPath ++ "::Ok(" ++ e.text ++ ")" := rfl

@[simp] theorem text_missing :
    (missing x).text = resultPath ++ "::Err(" ++ missingPath x ++ ")" := rfl

@[simp] theorem text_listOf : (listOf e).text = "::std::vec::Vec::from(" ++ e.text ++ ")" := rfl

@[simp] theorem text_variants :
    (variants x names).text =
      "[" ++ ", ".intercalate (names.map fun n => x ++ "::" ++ Name.spelling n) ++ "]" := rfl

@[simp] theorem text_applied : (applied f x).text = f ++ "(&" ++ Name.spelling x ++ ")" := rfl

@[simp] theorem text_pair :
    (pair x y).text = "(" ++ Name.spelling x ++ ", " ++ Name.spelling y ++ ")" := rfl

end

end Expr

/-! ### Statements -/

mutual

/-- A statement is written behind the text in front. -/
theorem Stmt.write_after (t : String) (p : Page) :
    ∀ s : Stmt, s.write (p.after t) = (s.write p).after t
  | .forEach x items body => by
    simp [Stmt.write, writeAll_after]
  | .ifThen condition body => by
    simp [Stmt.write, writeAll_after]
  | .giveBack value => by simp [Stmt.write]
  | .bind x value => by simp [Stmt.write]
  | .result value => by simp [Stmt.write]
  | .collect items x body => by
    simp [Stmt.write, writeAll_after]

/-- Statements are written behind the text in front. -/
theorem writeAll_after (t : String) (p : Page) :
    ∀ ss : List Stmt, writeAll ss (p.after t) = (writeAll ss p).after t
  | [] => rfl
  | s :: rest => by
    rw [writeAll, Stmt.write_after t p s, writeAll_after t _ rest]
    rfl

end

mutual

/-- A statement is written on its level. -/
theorem Stmt.write_depth (p : Page) :
    ∀ s : Stmt, (s.write p).depth = p.depth ∧ (s.write p).width = p.width
  | .forEach x items body => by
    simp [Stmt.write, Page.closeBlock, writeAll_depth _ body]
  | .ifThen condition body => by
    simp [Stmt.write, Page.closeBlock, writeAll_depth _ body]
  | .giveBack value => ⟨rfl, rfl⟩
  | .bind x value => ⟨rfl, rfl⟩
  | .result value => ⟨rfl, rfl⟩
  | .collect items x body => by
    simp [Stmt.write, Page.indent, Page.dedent, writeAll_depth _ body]

/-- Statements are written on their level. -/
theorem writeAll_depth (p : Page) :
    ∀ ss : List Stmt, (writeAll ss p).depth = p.depth ∧ (writeAll ss p).width = p.width
  | [] => ⟨rfl, rfl⟩
  | s :: rest => by
    obtain ⟨hdepth, hwidth⟩ := Stmt.write_depth p s
    obtain ⟨hdepth', hwidth'⟩ := writeAll_depth (s.write p) rest
    exact ⟨hdepth'.trans hdepth, hwidth'.trans hwidth⟩

end

/-! ### Functions -/

namespace Function

/-- The lines of a function, after the header, inside a companion. -/
def tail (f : Function) (width : Nat) : String :=
  (writeAll f.body ⟨width, "", 2, false, true⟩).closeBlock.text

/-- The lines of a function inside a companion. -/
def block (f : Function) (width : Nat) : String :=
  String.ofList (List.replicate width ' ') ++ f.header ++ " \x7b\n" ++ f.tail width

/-- Writing a function in a companion adds its lines, behind a blank line
that is due. -/
theorem write_eq (f : Function) {p : Page} (hdepth : p.depth = 1) :
    f.write p =
      { p with
        text := p.text ++ (if p.wantsBlank && !p.atBlockStart then "\n" else "") ++ f.block p.width
        wantsBlank := false
        atBlockStart := false } := by
  have hopen : p.openBlock f.header =
      Page.after (p.text ++ (if p.wantsBlank && !p.atBlockStart then "\n" else "") ++
        (String.ofList (List.replicate p.width ' ') ++ f.header ++ " \x7b\n"))
        ⟨p.width, "", 2, false, true⟩ := by
    simp [Page.openBlock, Page.line, Page.indent, Page.after, Page.margin, hdepth,
      String.append_assoc]
  obtain ⟨hd, hw⟩ := writeAll_depth ⟨p.width, "", 2, false, true⟩ f.body
  rw [write, hopen, writeAll_after, Page.closeBlock_after]
  simp [Page.after, block, tail, Page.closeBlock, Page.closeBlockWith, Page.dedent, Page.line,
    hd, hw, hdepth, String.append_assoc]

end Function

/-! ### Members -/

/-- The lines of constants. -/
def constantLines (width : Nat) : List String → String
  | [] => ""
  | name :: rest =>
    String.ofList (List.replicate width ' ') ++ (constantLine name ++ "\n") ++
      constantLines width rest

/-- The lines of functions, a blank line in front of each but the one that
begins the block. -/
def functionLines (width : Nat) : (atBlockStart : Bool) → List Function → String
  | _, [] => ""
  | atBlockStart, f :: rest =>
    (if atBlockStart then "" else "\n") ++ f.block width ++ functionLines width false rest

/-- Writing constants adds their lines. -/
theorem foldl_constantLine (names : List String) {p : Page} (hdepth : p.depth = 1)
    (hblank : p.wantsBlank = false) :
    names.foldl (fun p name => p.line (constantLine name)) p =
      { p with
        text := p.text ++ constantLines p.width names
        atBlockStart := p.atBlockStart && names.isEmpty } := by
  induction names generalizing p with
  | nil => simp [constantLines]
  | cons name rest ih =>
    rw [List.foldl_cons, ih (p := p.line (constantLine name)) hdepth rfl]
    simp [Page.line, Page.margin, constantLines, hdepth, hblank, String.append_assoc]

/-- Writing functions, each set off, adds their lines. -/
theorem foldl_write (fs : List Function) {p : Page} (hdepth : p.depth = 1)
    (hblank : p.wantsBlank = false) :
    fs.foldl (fun p f => f.write p.separate) p =
      { p with
        text := p.text ++ functionLines p.width p.atBlockStart fs
        atBlockStart := p.atBlockStart && fs.isEmpty } := by
  induction fs generalizing p with
  | nil => simp [functionLines]
  | cons f rest ih =>
    have hdepth' : p.separate.depth = 1 := hdepth
    rw [List.foldl_cons, Function.write_eq f hdepth', ih (by exact hdepth) (by rfl)]
    cases hstart : p.atBlockStart <;>
      simp [Page.separate, functionLines, hstart, hblank, String.append_assoc]

/-! ### Companions -/

namespace Code

/-- The lines in front of the members. -/
def preamble (c : Code) : String :=
  "// namespace " ++ (c.scope ++ ("\n\n#[allow(non_camel_case_types)]\n" ++ ("pub struct " ++
    (c.name ++
      (";\n\n#[allow(non_snake_case, non_upper_case_globals, dead_code, private_interfaces)]\n" ++
        ("impl " ++ (c.name ++ " \x7b\n")))))))

/-- The text of a companion: what stands in front of the members, the
constants, the functions, and a brace. -/
theorem text_eq (c : Code) (width : Nat) :
    c.text width = c.preamble ++ (constantLines width c.constants ++
      (functionLines width c.constants.isEmpty c.functions ++ "\x7d\n")) := by
  have hopen :
      ((((((Page.empty width).line ("// namespace " ++ c.scope)).separate.line
        "#[allow(non_camel_case_types)]").line ("pub struct " ++ c.name ++ ";")).separate.line
        "#[allow(non_snake_case, non_upper_case_globals, dead_code, private_interfaces)]").openBlock
        ("impl " ++ c.name)) = ⟨width, c.preamble, 1, false, true⟩ := by
    simp [Page.openBlock, Page.line, Page.separate, Page.indent, Page.margin, Page.empty, preamble,
      String.append_assoc]
  unfold text write writeMembers
  dsimp only
  rw [hopen, foldl_constantLine c.constants (by rfl) (by rfl),
    foldl_write c.functions (by rfl) (by rfl)]
  simp [Page.closeBlock, Page.closeBlockWith, Page.line, Page.dedent, Page.margin,
    String.append_assoc]

end Code

end Companion

end EnumCompanion
