import EnumCompanion.Proofs.Name.Segments
import EnumCompanion.Proofs.Scan.Places

/-!
# `EnumCompanion.Proofs.Scan.Stacks`: scanning with two stacks

A visitor walks through a file with two stacks, the segments of the module
path and the names of the inline modules around. It pushes a name on both
when it enters an inline module and pops both when it leaves, while it
collects what it finds.

* `Scanner.visit`: the visitor.
* `Scanner.visit_stacks`: whatever the stacks hold, they are the same after
  an item as before it.
* `Scanner.visit_eq`: from any stacks, and behind anything found before, the
  visitor finds what scanning the item finds.
* `Scan.file_exact`: what scanning finds in a file, place by place, and that
  the visitor finds the same.
-/

set_option autoImplicit false

namespace EnumCompanion

/-! ### What is found first and then -/

namespace Scan

@[simp] theorem append_empty (a : Scan) : a.append empty = a := by
  simp [append, empty]

@[simp] theorem empty_append (a : Scan) : empty.append a = a := by
  simp [append, empty]

theorem append_assoc (a b c : Scan) : (a.append b).append c = a.append (b.append c) := by
  simp [append, List.append_assoc]

end Scan

/-! ### The visitor -/

/-- A visitor of items. -/
structure Scanner where
  /-- The segments of the path of the module that it is in. -/
  scope : List String
  /-- The inline modules around, from the outermost. -/
  around : List String
  found : Scan
  deriving Repr

namespace Scanner

/-- The visitor at the start of a file. -/
def start (scope : String) : Scanner :=
  ⟨ModulePath.segments scope, [], .empty⟩

/-- The path of the module that the visitor is in. -/
def current (v : Scanner) : String :=
  ModulePath.ofSegments v.scope

/-- Pushes a name on both stacks. -/
def enter (v : Scanner) (name : String) : Scanner :=
  { v with scope := v.scope ++ [name], around := v.around ++ [name] }

/-- Pops both stacks. -/
def leave (v : Scanner) : Scanner :=
  { v with scope := v.scope.dropLast, around := v.around.dropLast }

/-- Collects the marked items of a level. -/
def collect (v : Scanner) (marker : String) (items : List Item) : Scanner :=
  { v with found := v.found.append ⟨Declaration.marked v.current marker items, []⟩ }

/-- Collects a module with a file of its own. -/
def note (v : Scanner) (attributes : List Attribute) (name : String) : Scanner :=
  { v with
    found := v.found.append
      ⟨[], [⟨Scan.inner v.current name, v.around, name, Scan.pathOf attributes⟩]⟩ }

mutual

/-- Visits an item. -/
def visit (marker : String) : Item → Scanner → Scanner
  | .inlineModule _ name _ items, v =>
    (visitAll marker items ((v.enter name.name).collect marker items)).leave
  | .leaf attributes (.moduleFile name) _ _, v => v.note attributes name.name
  | _, v => v

/-- Visits items in order. -/
def visitAll (marker : String) : List Item → Scanner → Scanner
  | [], v => v
  | item :: rest, v => visitAll marker rest (visit marker item v)

end

/-- Visits a file. -/
def visitFile (marker scope : String) (items : List Item) : Scanner :=
  visitAll marker items ((start scope).collect marker items)

/-! ### The stacks -/

mutual

/-- Visiting an item leaves both stacks as they were. -/
theorem visit_stacks (marker : String) :
    ∀ (item : Item) (v : Scanner),
      (visit marker item v).scope = v.scope ∧ (visit marker item v).around = v.around
  | .inlineModule _ name _ items, v => by
    obtain ⟨hscope, haround⟩ :=
      visitAll_stacks marker items ((v.enter name.name).collect marker items)
    constructor
    · show (visitAll marker items _).scope.dropLast = v.scope
      rw [hscope]
      exact List.dropLast_concat
    · show (visitAll marker items _).around.dropLast = v.around
      rw [haround]
      exact List.dropLast_concat
  | .verbatim _, v => ⟨rfl, rfl⟩
  | .leaf _ form _ _, v => by
    cases form <;> exact ⟨rfl, rfl⟩

/-- So does visiting items. -/
theorem visitAll_stacks (marker : String) :
    ∀ (items : List Item) (v : Scanner),
      (visitAll marker items v).scope = v.scope ∧ (visitAll marker items v).around = v.around
  | [], v => ⟨rfl, rfl⟩
  | item :: rest, v => by
    obtain ⟨hscope, haround⟩ := visit_stacks marker item v
    obtain ⟨hscope', haround'⟩ := visitAll_stacks marker rest (visit marker item v)
    exact ⟨hscope'.trans hscope, haround'.trans haround⟩

end

/-! ### What the visitor finds -/

/-- The path of an inline module. The stack must not be empty: the path of no
segments is the empty text, like that of one empty segment. -/
theorem current_enter {v : Scanner} (h : v.scope ≠ []) (name : String) :
    (v.enter name).current = Scan.inner v.current name := by
  show "::".intercalate (v.scope ++ [name]) = "::".intercalate v.scope ++ "::" ++ name
  rw [String.intercalate_append_of_ne_nil h (List.cons_ne_nil _ _)]
  rfl

mutual

/-- Visiting an item adds what scanning it finds, behind what is there. -/
theorem visit_eq (marker : String) :
    ∀ (item : Item) (v : Scanner), v.scope ≠ [] →
      visit marker item v =
        { v with found := v.found.append (Scan.ofItem marker v.current v.around item) }
  | .inlineModule attributes name head items, v, h => by
    -- The names pushed on the way in are popped on the way out; only what is found stays.
    have hproper : (v.enter name.name).scope ≠ [] := List.concat_ne_nil _ _
    have hcurrent := current_enter h name.name
    have hcollected : ((v.enter name.name).collect marker items).current =
        Scan.inner v.current name.name := hcurrent
    have hall := visitAll_eq marker items ((v.enter name.name).collect marker items) hproper
    have hscope : (v.scope ++ [name.name]).dropLast = v.scope := List.dropLast_concat
    have haround : (v.around ++ [name.name]).dropLast = v.around := List.dropLast_concat
    rw [visit, hall, hcollected, Scan.ofItem, ← Scan.append_assoc, ← hcurrent]
    show Scanner.mk (v.scope ++ [name.name]).dropLast (v.around ++ [name.name]).dropLast _ = _
    rw [hscope, haround]
    rfl
  | .verbatim _, v, _ => by
    simp [visit, Scan.ofItem]
  | .leaf attributes form head body, v, _ => by
    cases form <;> simp [visit, note, Scan.ofItem]

/-- Visiting items adds what scanning them finds. -/
theorem visitAll_eq (marker : String) :
    ∀ (items : List Item) (v : Scanner), v.scope ≠ [] →
      visitAll marker items v =
        { v with found := v.found.append (Scan.ofItems marker v.current v.around items) }
  | [], v, _ => by simp [visitAll, Scan.ofItems]
  | item :: rest, v, h => by
    rw [visitAll, visit_eq marker item v h, visitAll_eq marker rest _ (by exact h), Scan.ofItems,
      ← Scan.append_assoc]
    rfl

end

/-- The visitor finds in a file what scanning it finds. -/
theorem found_visitFile (marker scope : String) (items : List Item) :
    (visitFile marker scope items).found = Scan.file marker scope items := by
  have hcurrent : ((start scope).collect marker items).current = scope :=
    ModulePath.ofSegments_segments scope
  have hproper : ((start scope).collect marker items).scope ≠ [] := by
    intro hnil
    exact ModulePath.cut_ne_nil _ (List.map_eq_nil_iff.mp hnil)
  have hlevel : ((start scope).collect marker items).found =
      ⟨Declaration.marked scope marker items, []⟩ := by
    show Scan.append .empty ⟨Declaration.marked (start scope).current marker items, []⟩ = _
    rw [Scan.empty_append]
    exact congrArg (fun s => Scan.mk (Declaration.marked s marker items) []) hcurrent
  rw [visitFile, visitAll_eq marker items _ hproper, hcurrent, hlevel]
  rfl

end Scanner

/-! ### Files -/

/-- Scanning a file finds each marked item once, with the path and the blocks of
its own level, level by level; and each module with a file of its own once,
in the order of the text. A visitor that keeps the path and the names of the
inline modules on stacks finds the same, and each item leaves its stacks as
they were. -/
theorem Scan.file_exact (marker scope : String) (items : List Item) :
    Enumerates Place.LevelFirst (DeclaredAt marker scope items)
        (file marker scope items).declarations ∧
      Enumerates Place.DepthFirst (ModuleAt scope [] items) (file marker scope items).modules ∧
      (Scanner.visitFile marker scope items).found = file marker scope items ∧
      ∀ (item : Item) (v : Scanner), (v.visit marker item).scope = v.scope ∧
        (v.visit marker item).around = v.around :=
  ⟨(enumerates_below_items marker scope [] items).level,
    enumerates_modules_items marker scope [] items,
    Scanner.found_visitFile marker scope items,
    fun item v => Scanner.visit_stacks marker item v⟩

end EnumCompanion
