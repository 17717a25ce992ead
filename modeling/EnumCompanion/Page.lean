/-!
# `EnumCompanion.Page`: lines, blocks and blank lines

A page is a text under construction, line by line. Blocks indent what
they hold. A blank line is asked for with `separate` and appears only
between two lines of one block, so no block begins or ends with one.
-/

set_option autoImplicit false

namespace EnumCompanion

/-- A text under construction. -/
structure Page where
  /-- The spaces of one level of indentation. -/
  width : Nat
  /-- The lines written so far. -/
  text : String
  /-- The level of indentation. -/
  depth : Nat
  /-- Whether a blank line has been asked for since the last line. -/
  wantsBlank : Bool
  /-- Whether the last line opened a block, or there is no line yet. -/
  atBlockStart : Bool
  deriving DecidableEq, Repr

namespace Page

/-- The page without lines. -/
def empty (width : Nat) : Page := ⟨width, "", 0, false, true⟩

/-- The spaces in front of a line at the current level. -/
def margin (p : Page) : String :=
  String.ofList (List.replicate (p.width * p.depth) ' ')

/-- Writes a line. -/
def line (p : Page) (content : String) : Page :=
  { p with
    text := p.text ++ (if p.wantsBlank && !p.atBlockStart then "\n" else "") ++ p.margin ++
      content ++ "\n"
    wantsBlank := false
    atBlockStart := false }

/-- Asks for a blank line before the next line of the block. -/
def separate (p : Page) : Page :=
  { p with wantsBlank := true }

/-- One level deeper. -/
def indent (p : Page) : Page :=
  { p with depth := p.depth + 1 }

/-- One level out, but not out of the page. -/
def dedent (p : Page) : Page :=
  { p with depth := p.depth - 1 }

/-- Writes the line that opens a block and goes one level deeper. -/
def openBlock (p : Page) (header : String) : Page :=
  { (p.line (header ++ " \x7b")).indent with wantsBlank := false, atBlockStart := true }

/-- Goes one level out and writes the line that closes a block. -/
def closeBlockWith (p : Page) (closer : String) : Page :=
  { p.dedent with wantsBlank := false }.line closer

/-- Closes a block with a brace. -/
def closeBlock (p : Page) : Page :=
  p.closeBlockWith "\x7d"

/-- Writes a block: its header, what it holds, and a brace. -/
def block (p : Page) (header : String) (body : Page → Page) : Page :=
  (body (p.openBlock header)).closeBlock

/-! ### Steps -/

/-- One step in the construction of a page. -/
inductive Step where
  | line (content : String)
  | separate
  | indent
  | dedent
  | openBlock (header : String)
  | closeBlock
  | closeBlockWith (closer : String)
  deriving DecidableEq, Repr

/-- Takes a step. -/
def apply (p : Page) : Step → Page
  | .line content => p.line content
  | .separate => p.separate
  | .indent => p.indent
  | .dedent => p.dedent
  | .openBlock header => p.openBlock header
  | .closeBlock => p.closeBlock
  | .closeBlockWith closer => p.closeBlockWith closer

/-- The pages after each of the steps. -/
def states (p : Page) : List Step → List Page
  | [] => []
  | s :: rest => p.apply s :: (p.apply s).states rest

end Page

end EnumCompanion
