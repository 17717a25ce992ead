import EnumCompanion.Proofs.Grammar.Names
import EnumCompanion.Proofs.Name.Described
import EnumCompanion.Proofs.Name.Segments
import EnumCompanion.Scan
import EnumCompanion.Summary

/-!
# `EnumCompanion.Proofs.Declaration.Named`: declarations have names

Scanning takes items as the grammar gives them. So what it finds has names
that the lexer has read: the enum, its variants, the parameters of its
constructors, and the modules that it stands in. A parameter has a type
besides, and a type is not blank when it is written down.

* `isBlank_spelled`: clean tokens are not spelt as white space.
* `Declaration.IsNamed`: what the grammar says of a declaration.
* `isNamed_of_mem_file`: it says so of all that scanning finds.
-/

set_option autoImplicit false

namespace EnumCompanion

open EnumCompanion.Text

/-! ### Types are not blank -/

namespace Token

theorem isWhiteSpace_of_not_blank {c : Char} (h : isLexicalBlank c = false) :
    isWhiteSpace c = false := by
  unfold isLexicalBlank at h
  simp only [Bool.or_eq_false_iff] at h
  exact h.1.1

/-- A clean token begins with no white space. -/
theorem exists_visible_front {t : Token} (h : t.IsClean) :
    ∃ c x, t.spelledOne.toList = c :: x ∧ isWhiteSpace c = false := by
  cases t with
  | ident i =>
    obtain ⟨c, x, htext, hstart, -⟩ := exists_start_of_isLexed h
    refine ⟨c, x, htext, isWhiteSpace_of_not_blank ?_⟩
    rw [← Bool.not_eq_true]
    intro hblank
    rw [not_start_of_blank hblank] at hstart
    cases hstart
  | literal s =>
    obtain ⟨c, x, htext, hc⟩ := IsLiteral.exists_start h
    refine ⟨c, x, htext, ?_⟩
    -- A literal opens with a quote, with the letter of one, with a bracket or with a digit.
    rcases hc with hc | hdigit
    · have all : ∀ c ∈ '(' :: literalStarts, isWhiteSpace c = false := forall_mem_of_all rfl
      exact all c hc
    · exact isWhiteSpace_of_not_blank (digit_spec hdigit).1
  | punct c s =>
    exact ⟨c, [], by simp [spelledOne], isWhiteSpace_of_not_blank (mark_spec h.1).1⟩
  | group d ts =>
    cases d with
    | parenthesis => exact ⟨'(', _, by simp [spelledOne]; rfl, by decide⟩
    | bracket => exact ⟨'[', _, by simp [spelledOne]; rfl, by decide⟩
    | brace => exact ⟨'\x7b', _, by simp [spelledOne]; rfl, by decide⟩

/-- Clean tokens are not spelt as white space. -/
theorem isBlank_spelled {ts : List Token} (h : AreClean ts) (hne : ts ≠ []) :
    isBlank (spelled ts) = false := by
  cases ts with
  | nil => exact absurd rfl hne
  | cons t rest =>
    obtain ⟨c, x, hfront, hc⟩ := exists_visible_front h.1
    have hspelled : (spelled (t :: rest)).toList =
        c :: x ++ (spelledFrom t.opensUp t.isIdent rest).toList := by
      rw [← hfront, ← String.toList_append]
      simp [spelled, spelledFrom]
    rw [isBlank, hspelled, List.cons_append, List.all_cons, hc]
    rfl

end Token

/-! ### Names in paths -/

/-- A name in the path of a module: a summary may carry it if all its
characters may, and it is one segment of the path. -/
structure Name.IsSegment (s : String) : Prop where
  nonempty : s ≠ ""
  described : Name.isIdentifier s = Name.isDescribed s
  colon : ':' ∉ s.toList

theorem Name.isSegment_of_isIdentifier {s : String} (h : Name.isIdentifier s = true) :
    Name.IsSegment s where
  nonempty := fun heq => Name.toList_ne_nil h (by rw [heq]; rfl)
  described := by rw [h, Name.isDescribed_of_isIdentifier h]
  colon := Name.mark_not_mem h (by decide)

theorem Ident.IsDeclared.isSegment {i : Ident} (h : i.IsDeclared) : Name.IsSegment i.name where
  nonempty := by
    intro heq
    obtain ⟨c, cs, hname, -⟩ := h.lexed.1
    rw [heq] at hname
    cases hname
  described := Name.isIdentifier_eq_isDescribed h.lexed.1 h.underscore
  colon := by
    intro hmem
    obtain ⟨c, cs, hname, hstart, hcontinue⟩ := h.lexed.1
    rw [hname] at hmem
    have hcolon : Text.isIdentifierContinue ':' = true := by
      rcases List.mem_cons.mp hmem with rfl | hcs
      · exact Token.continue_of_start hstart
      · exact hcontinue _ hcs
    exact Token.not_special_of_continue hcolon (by decide)

/-- A name that can be declared may be declared by a summary if all its
characters may stand in one. -/
theorem Ident.IsDeclared.isDeclarable {i : Ident} (h : i.IsDeclared) :
    Summary.isDeclarable i.name = Name.isDescribed i.name := by
  rw [Summary.isDeclarable, h.isSegment.described, h.path]
  simp

/-- The path of a module whose segments are names. -/
def ModulePath.IsNamed (path : String) : Prop :=
  ∀ g ∈ ModulePath.segments path, Name.IsSegment g

/-- Such a path is not empty, since the empty text has an empty segment. -/
theorem ModulePath.IsNamed.ne_empty {path : String} (h : ModulePath.IsNamed path) : path ≠ "" := by
  rintro rfl
  exact (h "" List.mem_cons_self).nonempty rfl

/-- Into a module the path goes on with its name. -/
theorem ModulePath.IsNamed.inner {path : String} {i : Ident} (h : ModulePath.IsNamed path)
    (hi : i.IsDeclared) : ModulePath.IsNamed (Scan.inner path i.name) := by
  have hsegments : ModulePath.segments (Scan.inner path i.name) =
      ModulePath.segments path ++ [i.name] :=
    ModulePath.segments_append_name (fun g hg => (h g hg).colon) hi.isSegment.colon
  intro g hg
  rw [hsegments, List.mem_append, List.mem_singleton] at hg
  rcases hg with hg | rfl
  · exact h g hg
  · exact hi.isSegment

/-! ### Declarations -/

namespace Declaration

/-- What the grammar says of a declaration: its names, and those of the modules
around it, are names. -/
structure IsNamed (d : Declaration) : Prop where
  scope : ModulePath.IsNamed d.scope
  item : d.item.IsNamed
  blocks : ∀ b ∈ d.blocks, ∀ m ∈ b.methods, m.IsNamed

/-- The blocks of a declaration are items of the same module. -/
theorem isNamed_of_mem_blocks {marker scope : String} {items : List Item}
    (hitems : ∀ item ∈ items, item.IsNamed) {d : Declaration}
    (hd : d ∈ marked scope marker items) : ∀ b ∈ d.blocks, ∀ m ∈ b.methods, m.IsNamed := by
  obtain ⟨item, hitem, rfl⟩ := List.mem_map.mp hd
  intro b hb
  obtain ⟨name, -, hb⟩ : ∃ name, item.name? = some name ∧ b ∈ inherentBlocks items name := by
    unfold among at hb
    cases hname : item.name? with
    | none => simp [hname] at hb
    | some name => exact ⟨name, rfl, by simpa [hname] using hb⟩
  -- The block is that of an item, and has the functions of that item.
  obtain ⟨block, hblock, hb'⟩ := List.mem_filterMap.mp (List.mem_filter.mp hb).1
  have hnamed := hitems block hblock
  unfold Item.block? at hb'
  split at hb'
  · obtain rfl := Option.some.inj hb'
    exact hnamed
  · cases hb'

theorem isNamed_of_mem_marked {marker scope : String} {items : List Item}
    (hscope : ModulePath.IsNamed scope) (hitems : ∀ item ∈ items, item.IsNamed)
    {d : Declaration} (hd : d ∈ marked scope marker items) : d.IsNamed := by
  have hblocks := isNamed_of_mem_blocks hitems hd
  obtain ⟨item, hitem, rfl⟩ := List.mem_map.mp hd
  exact ⟨hscope, hitems item (List.mem_filter.mp hitem).1, hblocks⟩

end Declaration

/-- Nothing is found inside an item that is no inline module. -/
theorem Scan.declarations_ofItem_leaf (marker scope : String) (around : List String)
    (attributes : List Attribute) (form : Form) (head : List Token) (body : Option (List Token)) :
    (Scan.ofItem marker scope around (.leaf attributes form head body)).declarations = [] := by
  cases form <;> rfl

/-- Whatever scanning finds inside items that have names, it finds among the items
of one module, and these have names. Of the path of that module it is known
what the names on the way into it preserve. -/
theorem Scan.exists_level_of_mem_ofItems {P : String → Prop}
    (hinner : ∀ {path : String} {i : Ident}, P path → i.IsDeclared → P (Scan.inner path i.name))
    {marker scope : String} (around : List String) (hscope : P scope) :
    (items : List Item) → (∀ item ∈ items, item.IsNamed) →
      ∀ d ∈ (Scan.ofItems marker scope around items).declarations,
        ∃ path level, P path ∧ (∀ item ∈ level, item.IsNamed) ∧
          d ∈ Declaration.marked path marker level
  | [], _ => nofun
  | .inlineModule attributes name head items :: rest, h => by
    obtain ⟨hmodule, hrest⟩ := List.forall_mem_cons.mp h
    have hpath := hinner hscope hmodule.1
    have hitems := Item.areNamed_iff.mp hmodule.2
    intro d hd
    rcases List.mem_append.mp hd with hd | hd
    · -- Inside the module: its own enums first, then those in modules further in.
      rcases List.mem_append.mp hd with hd | hd
      · exact ⟨_, items, hpath, hitems, hd⟩
      · exact exists_level_of_mem_ofItems hinner (around ++ [name.name]) hpath items hitems d hd
    · exact exists_level_of_mem_ofItems hinner around hscope rest hrest d hd
  | .leaf attributes form head body :: rest, h => by
    obtain ⟨-, hrest⟩ := List.forall_mem_cons.mp h
    intro d hd
    rcases List.mem_append.mp hd with hd | hd
    · rw [Scan.declarations_ofItem_leaf] at hd
      cases hd
    · exact exists_level_of_mem_ofItems hinner around hscope rest hrest d hd
  | .verbatim ts :: rest, h =>
    exists_level_of_mem_ofItems hinner around hscope rest (List.forall_mem_cons.mp h).2

/-- So it does in a file with such items. -/
theorem Scan.exists_level_of_mem_file {P : String → Prop}
    (hinner : ∀ {path : String} {i : Ident}, P path → i.IsDeclared → P (Scan.inner path i.name))
    {marker scope : String} (hscope : P scope) {items : List Item}
    (hitems : ∀ item ∈ items, item.IsNamed) {d : Declaration}
    (hd : d ∈ (Scan.file marker scope items).declarations) :
    ∃ path level, P path ∧ (∀ item ∈ level, item.IsNamed) ∧
      d ∈ Declaration.marked path marker level := by
  rcases List.mem_append.mp hd with hd | hd
  · exact ⟨scope, items, hscope, hitems, hd⟩
  · exact Scan.exists_level_of_mem_ofItems hinner [] hscope items hitems d hd

/-- All that scanning finds in a source file has names. -/
theorem Scan.isNamed_of_mem_file {text marker scope : String} {items : List Item}
    (hfile : SourceText.file? text = some items)
    (hscope : ∀ g ∈ ModulePath.segments scope, Name.isIdentifier g = true) {d : Declaration}
    (hd : d ∈ (Scan.file marker scope items).declarations) : d.IsNamed := by
  have hscope : ModulePath.IsNamed scope := fun g hg =>
    Name.isSegment_of_isIdentifier (hscope g hg)
  obtain ⟨path, level, hpath, hlevel, hmarked⟩ :=
    Scan.exists_level_of_mem_file ModulePath.IsNamed.inner hscope
      (SourceText.isNamed_of_file? hfile) hd
  exact Declaration.isNamed_of_mem_marked hpath hlevel hmarked

end EnumCompanion
