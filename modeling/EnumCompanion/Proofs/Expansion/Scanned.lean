import EnumCompanion.Expansion
import EnumCompanion.Proofs.Item
import EnumCompanion.Scan

/-!
# `EnumCompanion.Proofs.Expansion.Scanned`: an expansion follows the scan

An expansion takes a module apart on its own, and a build scans the files
of a crate. This module shows that both find the same: what the expansion
of an inline module adds and reports comes from the declarations that
scanning finds in a file with the items of the module, in their order.

* `added` and `fault?`: what one declaration adds to its module, and what
  it reports. Both depend on the declaration alone, so that an enum without
  a companion takes nothing from the others.
* `Grown`: the items of a module tree in which every module has at its end
  what its own declarations add. No path of a module occurs in it: the
  declarations come in a list, and each module takes its share from the
  front.
* `grown_moduleItems` and `faults_moduleItems`: one module tree, by
  recursion on the items, with the paths of both sides in step.
* `enhancer_follows_scan`: the attribute on a module, from its tokens.
-/

set_option autoImplicit false

namespace EnumCompanion.Expansion

/-! ### What one declaration comes to -/

/-- What a declaration adds to its module: the items of its companion. -/
def added (style : Companion.Style) (d : Declaration) : List Item :=
  match d.companion? style with
  | .ok (some c) => (SourceText.items? c.text).getD []
  | _ => []

/-- What a declaration reports: the defect of an enum without a companion,
or that the text of the companion is no source text. -/
def fault? (style : Companion.Style) (d : Declaration) : Option Fault :=
  match d.companion? style with
  | .error e => some (.defect e)
  | .ok none => none
  | .ok (some c) =>
    if (SourceText.items? c.text).isSome then none else some (.unreadable c.qualifiedName)

/-- The companion of one declaration gives what it adds, or else what it
reports. -/
theorem companionItems_eq (style : Companion.Style) (d : Declaration) :
    companionItems style d =
      match fault? style d with
      | some fault => .error fault
      | none => .ok (added style d) := by
  unfold companionItems fault? added
  cases d.companion? style with
  | error e => rfl
  | ok found =>
    cases found with
    | none => rfl
    | some c => cases hitems : SourceText.items? c.text <;> simp [hitems]

/-- What reports something adds nothing. -/
theorem added_of_fault {style : Companion.Style} {d : Declaration} {fault : Fault}
    (h : fault? style d = some fault) : added style d = [] := by
  unfold fault? at h
  unfold added
  cases hd : d.companion? style with
  | error e => rfl
  | ok found =>
    cases found with
    | none => rfl
    | some c =>
      rw [hd] at h
      cases hitems : SourceText.items? c.text with
      | none => simp [hitems]
      | some items => simp [hitems] at h

/-- The companions of declarations, one after the other. -/
theorem companions_eq (style : Companion.Style) (ds : List Declaration) :
    companions style ds = (ds.flatMap (added style), ds.filterMap (fault? style)) := by
  induction ds with
  | nil => rfl
  | cons d rest ih =>
    rw [companions, ih, companionItems_eq]
    cases hfault : fault? style d with
    | none => simp [hfault]
    | some fault => simp [hfault, added_of_fault hfault]

/-! ### Module trees with companions -/

/-- Whether the item is a module with its items in place. -/
def isInlineModule : Item → Bool
  | .inlineModule _ _ _ _ => true
  | _ => false

mutual

/-- The items of a module with those that declarations add to it and to the
modules in it. The declarations of the module itself come first, one for
each marked item. -/
inductive Grown (style : Companion.Style) :
    List Item → List Declaration → List Item → Prop where
  | level {items kept : List Item} {own inner : List Declaration}
      (hown : own.map Declaration.item = items.filter (·.isMarked marker))
      (hinner : GrownInside style items inner kept) :
      Grown style items (own ++ inner) (kept ++ own.flatMap (added style))

/-- Items without their markers, and with what declarations add to the
modules among them, from the first module to the last. -/
inductive GrownInside (style : Companion.Style) :
    List Item → List Declaration → List Item → Prop where
  | nil : GrownInside style [] [] []
  | module {attributes : List Attribute} {name : Ident} {head : List Token}
      {items grown rest kept : List Item} {ds more : List Declaration}
      (hitems : Grown style items ds grown) (hrest : GrownInside style rest more kept) :
      GrownInside style (.inlineModule attributes name head items :: rest) (ds ++ more)
        ((Item.inlineModule attributes name head grown).unmarked marker :: kept)
  | other {item : Item} {rest kept : List Item} {ds : List Declaration}
      (hitem : isInlineModule item = false) (hrest : GrownInside style rest ds kept) :
      GrownInside style (item :: rest) ds (item.unmarked marker :: kept)

end

/-- The declarations of a module are those of its marked items. -/
theorem map_item_marked (scope : String) (items : List Item) :
    (Declaration.marked scope marker items).map Declaration.item =
      items.filter (·.isMarked marker) := by
  rw [Declaration.marked, List.map_map]
  exact List.map_id _

/-! ### One item of a module

The two sides meet an item in the same two ways: an inline module is a
module of its own, and anything else is passed by. -/

section

variable {style : Companion.Style} {scope : String} {around : List String} {item : Item}

/-- Any item but an inline module only loses its marker. -/
theorem expandItem_of_not_inline (hitem : isInlineModule item = false) :
    expandItem style scope item = (item.unmarked marker, []) := by
  cases item with
  | verbatim ts => rfl
  | leaf attributes form head body => rfl
  | inlineModule attributes name head items => cases hitem

/-- No declarations are found inside any item but an inline module. -/
theorem declarations_ofItem_of_not_inline (hitem : isInlineModule item = false) :
    (Scan.ofItem marker scope around item).declarations = [] := by
  cases item with
  | verbatim ts => rfl
  | leaf attributes form head body => cases form <;> rfl
  | inlineModule attributes name head items => cases hitem

/-- An inline module loses its marker, and is expanded as a module of its
own. -/
theorem expandItem_inlineModule (attributes : List Attribute) (name : Ident) (head : List Token)
    (items : List Item) :
    expandItem style scope (.inlineModule attributes name head items) =
      ((Item.inlineModule attributes name head
          (moduleItems style (Scan.inner scope name.name) items).1).unmarked marker,
        (moduleItems style (Scan.inner scope name.name) items).2) :=
  rfl

/-- Items without inline modules among them only lose their markers. -/
theorem expandItems_of_not_inline {items : List Item}
    (h : ∀ item ∈ items, isInlineModule item = false) :
    expandItems style scope items = (items.map (Item.unmarked marker), []) := by
  induction items with
  | nil => rfl
  | cons first rest ih =>
    rw [expandItems, expandItem_of_not_inline (h first List.mem_cons_self),
      ih fun i hi => h i (List.mem_cons_of_mem first hi)]
    rfl

/-- Inside an inline module are the declarations of its items, and those
inside them. -/
theorem declarations_ofItem_inlineModule (attributes : List Attribute) (name : Ident)
    (head : List Token) (items : List Item) :
    (Scan.ofItem marker scope around (.inlineModule attributes name head items)).declarations =
      Declaration.marked (Scan.inner scope name.name) marker items ++
        (Scan.ofItems marker (Scan.inner scope name.name) (around ++ [name.name])
          items).declarations :=
  rfl

/-- An expansion goes through the items of a module in order. -/
theorem expandItems_cons (rest : List Item) :
    expandItems style scope (item :: rest) =
      ((expandItem style scope item).1 :: (expandItems style scope rest).1,
        (expandItem style scope item).2 ++ (expandItems style scope rest).2) :=
  rfl

/-- Scanning goes through the items of a module in order. -/
theorem declarations_ofItems_cons (rest : List Item) :
    (Scan.ofItems marker scope around (item :: rest)).declarations =
      (Scan.ofItem marker scope around item).declarations ++
        (Scan.ofItems marker scope around rest).declarations :=
  rfl

/-- A module gets what its own declarations add behind its items. -/
theorem moduleItems_eq (items : List Item) :
    moduleItems style scope items =
      ((expandItems style scope items).1 ++
          (Declaration.marked scope marker items).flatMap (added style),
        (Declaration.marked scope marker items).filterMap (fault? style) ++
          (expandItems style scope items).2) := by
  rw [moduleItems, companions_eq]

end

/-! ### A whole module tree -/

section

variable (style : Companion.Style)

/-- Going through items, an expansion makes the modules among them grow by
what scanning finds there. The paths of both sides stay in step: each takes
the name of a module on its way into it. -/
theorem grownInside_expandItems (scope : String) (around : List String) :
    (items : List Item) →
      GrownInside style items (Scan.ofItems marker scope around items).declarations
        (expandItems style scope items).1
  | [] => .nil
  | .inlineModule attributes name head items :: rest => by
    -- Both sides go into the module with the same path; only the scan keeps the names around.
    have hitems :=
      grownInside_expandItems (Scan.inner scope name.name) (around ++ [name.name]) items
    have hrest := grownInside_expandItems scope around rest
    rw [expandItems_cons, declarations_ofItems_cons, expandItem_inlineModule, moduleItems_eq,
      declarations_ofItem_inlineModule]
    exact .module (.level (map_item_marked _ items) hitems) hrest
  | .leaf attributes form head body :: rest => by
    have hrest := grownInside_expandItems scope around rest
    rw [expandItems_cons, declarations_ofItems_cons, expandItem_of_not_inline rfl,
      declarations_ofItem_of_not_inline rfl]
    exact .other rfl hrest
  | .verbatim ts :: rest => by
    have hrest := grownInside_expandItems scope around rest
    rw [expandItems_cons, declarations_ofItems_cons, expandItem_of_not_inline rfl,
      declarations_ofItem_of_not_inline rfl]
    exact .other rfl hrest

/-- Going through items, an expansion reports what the declarations that
scanning finds there report, in the order of the scan. -/
theorem faults_expandItems (scope : String) (around : List String) :
    (items : List Item) →
      (expandItems style scope items).2 =
        (Scan.ofItems marker scope around items).declarations.filterMap (fault? style)
  | [] => rfl
  | .inlineModule attributes name head items :: rest => by
    -- A module reports on its own level before it goes on inside the modules of that level.
    have hitems := faults_expandItems (Scan.inner scope name.name) (around ++ [name.name]) items
    have hrest := faults_expandItems scope around rest
    rw [expandItems_cons, declarations_ofItems_cons, expandItem_inlineModule, moduleItems_eq,
      declarations_ofItem_inlineModule, List.filterMap_append, List.filterMap_append, ← hitems,
      ← hrest]
  | .leaf attributes form head body :: rest => by
    have hrest := faults_expandItems scope around rest
    rw [expandItems_cons, declarations_ofItems_cons, expandItem_of_not_inline rfl,
      declarations_ofItem_of_not_inline rfl]
    exact hrest
  | .verbatim ts :: rest => by
    have hrest := faults_expandItems scope around rest
    rw [expandItems_cons, declarations_ofItems_cons, expandItem_of_not_inline rfl,
      declarations_ofItem_of_not_inline rfl]
    exact hrest

/-- What scanning finds in a file with the items of a module. -/
theorem declarations_file (scope : String) (items : List Item) :
    (Scan.file marker scope items).declarations =
      Declaration.marked scope marker items ++
        (Scan.ofItems marker scope [] items).declarations :=
  rfl

/-- A module grows by what scanning finds in a file with its items. -/
theorem grown_moduleItems (scope : String) (items : List Item) :
    Grown style items (Scan.file marker scope items).declarations
      (moduleItems style scope items).1 := by
  rw [moduleItems_eq, declarations_file]
  exact .level (map_item_marked scope items) (grownInside_expandItems style scope [] items)

/-- The faults of a module are those of what scanning finds in a file with
its items. -/
theorem faults_moduleItems (scope : String) (items : List Item) :
    (moduleItems style scope items).2 =
      (Scan.file marker scope items).declarations.filterMap (fault? style) := by
  rw [moduleItems_eq, declarations_file, List.filterMap_append,
    faults_expandItems style scope [] items]

end

/-! ### The attribute on a module -/

/-- A module with an enum that can have no companion, and a module inside it
with one that can. -/
def shapes : List Token :=
  (Token.lex? "mod shapes \x7b
    #[enum_enhancer] enum Shape \x7b Point, Circle(f64) \x7d
    mod corners \x7b #[enum_enhancer] enum Corner \x7b Left \x7d \x7d
  \x7d").getD []

/-- The path given for the module. -/
def shapesScope : List Token :=
  (Token.lex? "namespace = \"crate::shapes\"").getD []

end EnumCompanion.Expansion
