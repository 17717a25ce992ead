import EnumCompanion.Scan
import Mathlib.Data.List.Basic

/-!
# `EnumCompanion.Proofs.Scan.Places`: every place of a file is scanned once

An item stands at a place: the way down through the inline modules, by the
number of each among its neighbours, and then its own number. Of the items
at all places, scanning lists the marked ones and the modules with files
of their own, each once and in an order that places alone determine.

* `Place`, `levelAt?`: places, and the items that stand around one.
* `Place.LevelFirst`, `Place.DepthFirst`: the two orders. They differ where
  a marked item comes behind an inline module of the same level.
* `Enumerates`: a list of what a relation gives to indices, in an order of
  the indices; it is closed under appending and renumbering.
* `DeclaredAt`, `ModuleAt`: what there is to find at a place.
* `enumerates_declarations`, `enumerates_modules`: what scanning finds, by
  recursion on the items.
-/

set_option autoImplicit false

namespace EnumCompanion

/-! ### Places -/

/-- Where an item stands in a file. -/
structure Place where
  /-- The numbers of the inline modules around it, from the outermost. -/
  path : List Nat
  /-- Its number among the items of the innermost one. -/
  index : Nat
  deriving DecidableEq, Repr

namespace Place

/-- Levels from the outside in, those of one level by what comes first in the
text, and the items of a level before what is inside them. -/
def LevelFirst (p q : Place) : Prop :=
  p.path < q.path ∨ p.path = q.path ∧ p.index < q.index

/-- The order of the text. -/
def DepthFirst (p q : Place) : Prop :=
  p.path ++ [p.index] < q.path ++ [q.index]

/-- The place seen from outside the inline module with the given number. -/
def within (i : Nat) (p : Place) : Place := ⟨i :: p.path, p.index⟩

/-- The place with one more item in front of the outermost level. -/
def behind : Place → Place
  | ⟨[], index⟩ => ⟨[], index + 1⟩
  | ⟨i :: path, index⟩ => ⟨(i + 1) :: path, index⟩

/-- Going into a module keeps both orders. -/
theorem LevelFirst.within {p q : Place} (h : p.LevelFirst q) (i : Nat) :
    (p.within i).LevelFirst (q.within i) := by
  rcases h with hpath | ⟨hpath, hindex⟩
  · exact .inl (List.cons_lt_cons_iff.mpr (.inr ⟨rfl, hpath⟩))
  · exact .inr ⟨congrArg (i :: ·) hpath, hindex⟩

theorem DepthFirst.within {p q : Place} (h : p.DepthFirst q) (i : Nat) :
    (p.within i).DepthFirst (q.within i) :=
  List.cons_lt_cons_iff.mpr (.inr ⟨rfl, h⟩)

/-- One more item in front keeps both orders. -/
theorem LevelFirst.behind {p q : Place} (h : p.LevelFirst q) : p.behind.LevelFirst q.behind := by
  obtain ⟨path, index⟩ := p
  obtain ⟨path', index'⟩ := q
  cases path <;> cases path' <;> simp_all [LevelFirst, Place.behind, List.cons_lt_cons_iff]

theorem DepthFirst.behind {p q : Place} (h : p.DepthFirst q) : p.behind.DepthFirst q.behind := by
  obtain ⟨path, index⟩ := p
  obtain ⟨path', index'⟩ := q
  cases path <;> cases path' <;> simp_all [DepthFirst, Place.behind, List.cons_lt_cons_iff]

/-- The place is the first item of the outermost level, or inside it. -/
def IsFirst : Place → Prop
  | ⟨[], index⟩ => index = 0
  | ⟨i :: _, _⟩ => i = 0

/-- Any other place has an item in front. -/
theorem isFirst_or_behind (p : Place) : p.IsFirst ∨ ∃ q : Place, p = q.behind := by
  obtain ⟨path, index⟩ := p
  cases path with
  | nil =>
    cases index with
    | zero => exact .inl rfl
    | succ index => exact .inr ⟨⟨[], index⟩, rfl⟩
  | cons i path =>
    cases i with
    | zero => exact .inl rfl
    | succ i => exact .inr ⟨⟨i :: path, index⟩, rfl⟩

theorem not_isFirst_behind (q : Place) : ¬q.behind.IsFirst := by
  obtain ⟨path, index⟩ := q
  cases path with
  | nil => exact Nat.succ_ne_zero index
  | cons i path => exact Nat.succ_ne_zero i

theorem behind_injective {p q : Place} (h : p.behind = q.behind) : p = q := by
  obtain ⟨path, index⟩ := p
  obtain ⟨path', index'⟩ := q
  cases path <;> cases path' <;> simp_all [behind]

/-- What holds of places in items holds of the first item, or of a place in the
others. -/
theorem forall_iff_behind {R S T : Place → Prop} (hfirst : ∀ p, p.IsFirst → (R p ↔ S p))
    (hbehind : ∀ q : Place, R q.behind ↔ T q) (hsingle : ∀ q : Place, ¬S q.behind) (p : Place) :
    R p ↔ S p ∨ ∃ q : Place, p = q.behind ∧ T q := by
  rcases p.isFirst_or_behind with hp | ⟨q, rfl⟩
  · -- It is not behind another item, so only the first alternative is left.
    rw [hfirst p hp]
    refine ⟨.inl, ?_⟩
    rintro (hS | ⟨q, rfl, -⟩)
    · exact hS
    · exact absurd hp q.not_isFirst_behind
  · rw [hbehind q]
    constructor
    · intro hT
      exact .inr ⟨q, rfl, hT⟩
    · rintro (hS | ⟨q', heq, hT⟩)
      · exact absurd hS (hsingle q)
      · exact behind_injective heq ▸ hT

/-- The first item comes before the others, in the order of the text and among
what is inside the items. -/
theorem IsFirst.depthFirst {p : Place} (h : p.IsFirst) (q : Place) : p.DepthFirst q.behind := by
  obtain ⟨path, index⟩ := p
  obtain ⟨path', index'⟩ := q
  cases path <;> cases path' <;>
    simp_all [IsFirst, DepthFirst, behind, List.cons_lt_cons_iff]

theorem IsFirst.levelFirst {p q : Place} (h : p.IsFirst) (hp : p.path ≠ []) (hq : q.path ≠ []) :
    p.LevelFirst q.behind := by
  obtain ⟨path, index⟩ := p
  obtain ⟨path', index'⟩ := q
  cases path <;> cases path' <;>
    simp_all [IsFirst, LevelFirst, behind, List.cons_lt_cons_iff]

end Place

/-! ### Enumerations -/

/-- A list holds exactly what a relation gives to indices, in the order of the
indices, and nothing of it twice. -/
def Enumerates {ι α : Type} (before : ι → ι → Prop) (R : ι → α → Prop) (found : List α) : Prop :=
  ∃ entries : List (ι × α), (entries.map Prod.fst).Pairwise before ∧
    entries.map Prod.snd = found ∧ ∀ i a, (i, a) ∈ entries ↔ R i a

namespace Enumerates

variable {ι κ α : Type} {before : ι → ι → Prop} {R S : ι → α → Prop} {xs ys : List α}

/-- If nothing is given, nothing is listed. -/
theorem nil (h : ∀ i a, ¬R i a) : Enumerates before R [] :=
  ⟨[], .nil, rfl, fun i a => iff_of_false nofun (h i a)⟩

/-- Relations that agree are listed alike. -/
theorem congr (h : Enumerates before R xs) (hRS : ∀ i a, R i a ↔ S i a) :
    Enumerates before S xs := by
  obtain ⟨entries, hsorted, hfound, hmem⟩ := h
  exact ⟨entries, hsorted, hfound, fun i a => (hmem i a).trans (hRS i a)⟩

/-- A single thing is listed alone. -/
theorem singleton {i : ι} {a : α} (h : ∀ j c, R j c ↔ j = i ∧ c = a) :
    Enumerates before R [a] := by
  refine ⟨[(i, a)], List.pairwise_singleton _ _, rfl, fun j c => ?_⟩
  rw [List.mem_singleton, Prod.mk.injEq]
  exact (h j c).symm

/-- What comes first is listed in front. -/
theorem append (hR : Enumerates before R xs) (hS : Enumerates before S ys)
    (hlt : ∀ i a j c, R i a → S j c → before i j) :
    Enumerates before (fun i a => R i a ∨ S i a) (xs ++ ys) := by
  obtain ⟨entries, hsorted, hfound, hmem⟩ := hR
  obtain ⟨more, hsorted', hfound', hmem'⟩ := hS
  refine ⟨entries ++ more, ?_, ?_, ?_⟩
  · rw [List.map_append, List.pairwise_append]
    refine ⟨hsorted, hsorted', ?_⟩
    intro i hi j hj
    obtain ⟨⟨_, a⟩, ha, rfl⟩ := List.mem_map.mp hi
    obtain ⟨⟨_, c⟩, hc, rfl⟩ := List.mem_map.mp hj
    exact hlt _ a _ c ((hmem _ a).mp ha) ((hmem' _ c).mp hc)
  · rw [List.map_append, hfound, hfound']
  · intro i a
    rw [List.mem_append, hmem, hmem']

/-- Indices can be renumbered, if this keeps their order. -/
theorem renumber {r : κ → κ → Prop} (f : ι → κ)
    (hf : ∀ {i j}, before i j → r (f i) (f j)) (h : Enumerates before R xs) :
    Enumerates r (fun k a => ∃ i, k = f i ∧ R i a) xs := by
  obtain ⟨entries, hsorted, hfound, hmem⟩ := h
  refine ⟨entries.map fun e => (f e.1, e.2), ?_, ?_, ?_⟩
  · have hkeys : (entries.map fun e => (f e.1, e.2)).map Prod.fst =
        (entries.map Prod.fst).map f := by
      rw [List.map_map, List.map_map]
      rfl
    rw [hkeys]
    exact hsorted.map f fun _ _ => hf
  · rw [List.map_map, ← hfound]
    rfl
  · intro k a
    constructor
    · intro hk
      obtain ⟨e, he, heq⟩ := List.mem_map.mp hk
      obtain ⟨rfl, rfl⟩ := Prod.mk.inj heq
      exact ⟨e.1, rfl, (hmem e.1 e.2).mp he⟩
    · rintro ⟨i, rfl, hR⟩
      exact List.mem_map.mpr ⟨(i, a), (hmem i a).mpr hR, rfl⟩

/-- The items of a list that pass a test are listed by their numbers. -/
theorem filter_map {β : Type} (p : β → Bool) (f : β → α) (items : List β) :
    Enumerates (fun i j : Nat => i < j) (fun i a => ∃ x, items[i]? = some x ∧ p x = true ∧ a = f x)
      ((items.filter p).map f) := by
  induction items with
  | nil =>
    refine nil fun i a h => ?_
    obtain ⟨x, hx, -⟩ := h
    cases hx
  | cons x rest ih =>
    have hrest := ih.renumber (r := fun i j : Nat => i < j) Nat.succ Nat.succ_lt_succ
    have hhead : Enumerates (fun i j : Nat => i < j) (fun i a => i = 0 ∧ p x = true ∧ a = f x)
        ((if p x then [x] else []).map f) := by
      cases hp : p x with
      | false => exact nil (by simp)
      | true => exact singleton (i := 0) (by simp)
    have hsplit : (List.filter p (x :: rest)).map f =
        (if p x then [x] else []).map f ++ (rest.filter p).map f := by
      rw [List.filter_cons]
      split <;> rfl
    rw [hsplit]
    -- The head, if it passes, has the number zero; the others have moved up by one.
    refine (hhead.append hrest ?_).congr ?_
    · rintro i a j c ⟨rfl, -⟩ ⟨k, rfl, -⟩
      exact Nat.succ_pos k
    · intro i a
      cases i with
      | zero => simp
      | succ i => simp

end Enumerates

/-! ### What there is to find -/

/-- The inline modules on the way down from items, by name, and the items at the
end of it. -/
def levelAt? (items : List Item) : List Nat → Option (List String × List Item)
  | [] => some ([], items)
  | i :: path =>
    match items[i]? with
    | some (.inlineModule _ name _ inner) =>
      (levelAt? inner path).map fun below => (name.name :: below.1, below.2)
    | _ => none

/-- The block that an item is, if it implements no trait and its type is a path
that ends in the name. -/
def ownBlock? (name : Ident) : Item → Option Implementation
  | .leaf _ (.implementation ⟨true, some path, methods⟩) _ _ =>
    if path.segments.getLast?.map Segment.name = some name then
      some ⟨true, some path, methods⟩
    else none
  | _ => none

/-- The inherent blocks of a level for an item with that name, or without one. -/
def ownBlocks (level : List Item) : Option Ident → List Implementation
  | some name => level.filterMap (ownBlock? name)
  | none => []

/-- At the place stands a marked item, and this is its declaration: with the
path of its module, and with the blocks of its level. -/
def DeclaredAt (marker scope : String) (items : List Item) (p : Place) (d : Declaration) : Prop :=
  ∃ around level, levelAt? items p.path = some (around, level) ∧
    level[p.index]? = some d.item ∧ d.item.isMarked marker = true ∧
    d.scope = ModulePath.ofSegments (scope :: around) ∧
    d.blocks = ownBlocks level d.item.name?

/-- At the place stands a module with a file of its own, below the given inline
modules. -/
def ModuleAt (scope : String) (outer : List String) (items : List Item) (p : Place)
    (m : ModuleFile) : Prop :=
  ∃ around level attributes name head body, levelAt? items p.path = some (around, level) ∧
    level[p.index]? = some (.leaf attributes (.moduleFile name) head body) ∧
    m = ⟨ModulePath.ofSegments (scope :: (around ++ [name.name])), outer ++ around, name.name,
      Scan.pathOf attributes⟩

/-! ### Going down -/

/-- The way through another item does not depend on the first. -/
theorem levelAt?_succ (item : Item) (rest : List Item) (i : Nat) (path : List Nat) :
    levelAt? (item :: rest) ((i + 1) :: path) = levelAt? rest (i :: path) := by
  simp [levelAt?]

/-- The way down goes through an inline module, and on inside it. -/
theorem levelAt?_cons_eq_some {items level : List Item} {i : Nat} {path : List Nat}
    {around : List String} :
    levelAt? items (i :: path) = some (around, level) ↔
      ∃ attributes name head inner names,
        items[i]? = some (.inlineModule attributes name head inner) ∧
          levelAt? inner path = some (names, level) ∧ around = name.name :: names := by
  constructor
  · intro hlevel
    simp only [levelAt?] at hlevel
    split at hlevel
    next attributes name head inner hmodule =>
      obtain ⟨⟨names, level'⟩, hbelow, heq⟩ := Option.map_eq_some_iff.mp hlevel
      obtain ⟨rfl, rfl⟩ := Prod.mk.inj heq
      exact ⟨attributes, name, head, inner, names, hmodule, hbelow, rfl⟩
    next => cases hlevel
  · rintro ⟨attributes, name, head, inner, names, hmodule, hbelow, rfl⟩
    simp only [levelAt?, hmodule, hbelow, Option.map_some]

/-- The path of a module below an inline module. -/
theorem ofSegments_inner (scope name : String) (names : List String) :
    ModulePath.ofSegments (Scan.inner scope name :: names) =
      ModulePath.ofSegments (scope :: name :: names) := by
  rw [← String.toList_inj]
  cases names <;>
    simp [ModulePath.ofSegments, Scan.inner, String.toList_intercalate]

/-- A block belongs to a name when it is its own block. -/
theorem ownBlock?_eq (name : Ident) (item : Item) :
    ownBlock? name item = item.block?.filter (·.belongsTo name) := by
  cases item with
  | verbatim ts => rfl
  | inlineModule attributes other head items => rfl
  | leaf attributes form head body =>
    cases form with
    | enumeration other isGeneric variants => rfl
    | moduleFile other => rfl
    | plain kind other => rfl
    | implementation b =>
      -- A block of a trait, or for a type that is no path, belongs to no name.
      obtain ⟨isInherent, self, methods⟩ := b
      cases isInherent with
      | false => rfl
      | true =>
        cases self with
        | none => rfl
        | some path =>
          cases hlast : path.segments.getLast? <;>
            simp [ownBlock?, Item.block?, Implementation.belongsTo, Path.last?, hlast,
              Option.filter_some]

/-- The blocks that a declaration is given are the own blocks of its level. -/
theorem blocks_among (scope : String) (items : List Item) (item : Item) :
    (Declaration.among scope items item).blocks = ownBlocks items item.name? := by
  unfold Declaration.among
  cases item.name? with
  | none => rfl
  | some name =>
    show (items.filterMap Item.block?).filter (·.belongsTo name) =
      items.filterMap (ownBlock? name)
    rw [List.filter_filterMap]
    simp only [ownBlock?_eq]

/-! ### Declarations -/

/-- What is marked in a level itself. -/
theorem declaredAt_here {marker scope : String} {items : List Item} {i : Nat} {d : Declaration} :
    DeclaredAt marker scope items ⟨[], i⟩ d ↔
      ∃ item, items[i]? = some item ∧ item.isMarked marker = true ∧
        d = Declaration.among scope items item := by
  constructor
  · rintro ⟨around, level, hlevel, hitem, hmarked, hscope, hblocks⟩
    obtain ⟨rfl, rfl⟩ := Prod.mk.inj (Option.some.inj hlevel)
    refine ⟨d.item, hitem, hmarked, ?_⟩
    rw [← blocks_among scope] at hblocks
    calc d = ⟨d.scope, d.item, d.blocks⟩ := rfl
      _ = Declaration.among scope items d.item := by rw [hscope, hblocks]; rfl
  · rintro ⟨item, hitem, hmarked, rfl⟩
    exact ⟨[], items, rfl, hitem, hmarked, rfl, blocks_among scope items item⟩

/-- What is marked inside an inline module. -/
theorem declaredAt_within {marker scope : String} {items : List Item} {i : Nat} {p : Place}
    {d : Declaration} :
    DeclaredAt marker scope items (p.within i) d ↔
      ∃ attributes name head inner, items[i]? = some (.inlineModule attributes name head inner) ∧
        DeclaredAt marker (Scan.inner scope name.name) inner p d := by
  constructor
  · rintro ⟨around, level, hlevel, hitem, hmarked, hscope, hblocks⟩
    obtain ⟨attributes, name, head, inner, names, hmodule, hbelow, rfl⟩ :=
      levelAt?_cons_eq_some.mp hlevel
    exact ⟨attributes, name, head, inner, hmodule, names, level, hbelow, hitem, hmarked,
      hscope.trans (ofSegments_inner scope name.name names).symm, hblocks⟩
  · rintro ⟨attributes, name, head, inner, hmodule, names, level, hbelow, hitem, hmarked, hscope,
      hblocks⟩
    exact ⟨name.name :: names, level,
      levelAt?_cons_eq_some.mpr ⟨attributes, name, head, inner, names, hmodule, hbelow, rfl⟩,
      hitem, hmarked, hscope.trans (ofSegments_inner scope name.name names), hblocks⟩

/-- What is marked below a level, in the inline modules of its items. -/
def DeclaredBelow (marker scope : String) (items : List Item) (p : Place)
    (d : Declaration) : Prop :=
  p.path ≠ [] ∧ DeclaredAt marker scope items p d

/-- What is below a single item is inside it. -/
theorem DeclaredBelow.isFirst {marker scope : String} {item : Item} {p : Place} {d : Declaration}
    (h : DeclaredBelow marker scope [item] p d) : p.IsFirst := by
  obtain ⟨path, index⟩ := p
  obtain ⟨hne, around, level, hlevel, -⟩ := h
  cases path with
  | nil => exact absurd rfl hne
  | cons i path =>
    cases i with
    | zero => rfl
    | succ i => cases hlevel

/-- What is below some items is in the module that is the first, or below the
others. -/
theorem declaredBelow_cons {marker scope : String} {item : Item} {rest : List Item}
    (d : Declaration) (p : Place) :
    DeclaredBelow marker scope (item :: rest) p d ↔
      DeclaredBelow marker scope [item] p d ∨
        ∃ q : Place, p = q.behind ∧ DeclaredBelow marker scope rest q d := by
  refine Place.forall_iff_behind (R := fun p => DeclaredBelow marker scope (item :: rest) p d)
    (S := fun p => DeclaredBelow marker scope [item] p d)
    (T := fun p => DeclaredBelow marker scope rest p d) ?_ ?_ ?_ p
  · rintro ⟨path, index⟩ hfirst
    cases path with
    | nil => exact iff_of_false (fun h => h.1 rfl) fun h => h.1 rfl
    | cons i path =>
      obtain rfl : i = 0 := hfirst
      exact Iff.rfl
  · rintro ⟨path, index⟩
    cases path with
    | nil => exact iff_of_false (fun h => h.1 rfl) fun h => h.1 rfl
    | cons i path =>
      refine and_congr (iff_of_true nofun nofun) ?_
      show DeclaredAt marker scope (item :: rest) ⟨(i + 1) :: path, index⟩ d ↔ _
      simp only [DeclaredAt, levelAt?_succ]
  · intro q h
    exact q.not_isFirst_behind h.isFirst

/-- The level of a module, and what is below it. -/
theorem Enumerates.level {marker scope : String} {around : List String} {items : List Item}
    (h : Enumerates Place.LevelFirst (DeclaredBelow marker scope items)
      (Scan.ofItems marker scope around items).declarations) :
    Enumerates Place.LevelFirst (DeclaredAt marker scope items)
      (Declaration.marked scope marker items ++
        (Scan.ofItems marker scope around items).declarations) := by
  have hhere := (filter_map (·.isMarked marker) (Declaration.among scope items) items).renumber
    (r := Place.LevelFirst) (fun i => ⟨[], i⟩) fun hlt => .inr ⟨rfl, hlt⟩
  refine (hhere.append h ?_).congr ?_
  · rintro _ d ⟨path, index⟩ d' ⟨i, rfl, -⟩ hbelow
    cases path with
    | nil => exact absurd rfl hbelow.1
    | cons j path => exact .inl (List.nil_lt_cons j path)
  · rintro ⟨path, index⟩ d
    -- A place without a way down is in the level itself, any other one below it.
    cases path with
    | nil =>
      rw [declaredAt_here]
      constructor
      · rintro (⟨i, heq, hitem⟩ | hbelow)
        · cases heq
          exact hitem
        · exact absurd rfl hbelow.1
      · intro hitem
        exact .inl ⟨index, rfl, hitem⟩
    | cons i path =>
      constructor
      · rintro (⟨j, heq, -⟩ | hbelow)
        · cases heq
        · exact hbelow.2
      · intro hdeclared
        exact .inr ⟨nofun, hdeclared⟩

/-- Whether an item is a module with its items in place. -/
def Item.isInline : Item → Bool
  | .inlineModule _ _ _ _ => true
  | _ => false

/-- An item that is no inline module has nothing below it. -/
theorem enumerates_below_nil {marker scope : String} {item : Item} (h : item.isInline = false) :
    Enumerates Place.LevelFirst (DeclaredBelow marker scope [item]) [] := by
  refine .nil ?_
  rintro ⟨path, index⟩ d ⟨hne, hdeclared⟩
  cases path with
  | nil => exact hne rfl
  | cons i path =>
    obtain ⟨attributes, name, head, inner, hitem, -⟩ :=
      (declaredAt_within (p := ⟨path, index⟩)).mp hdeclared
    obtain rfl := List.mem_singleton.mp (List.mem_of_getElem? hitem)
    cases h

mutual

/-- What is marked inside an item. -/
theorem enumerates_below_item (marker scope : String) (around : List String) :
    ∀ item : Item, Enumerates Place.LevelFirst (DeclaredBelow marker scope [item])
      (Scan.ofItem marker scope around item).declarations
  | .inlineModule attributes name head inner => by
    -- Inside, the module is a level of its own; from outside its number comes in front.
    have hinner := (enumerates_below_items marker (Scan.inner scope name.name)
      (around ++ [name.name]) inner).level.renumber (r := Place.LevelFirst) (Place.within 0)
      fun hlt => hlt.within 0
    refine hinner.congr ?_
    rintro ⟨path, index⟩ d
    constructor
    · rintro ⟨p, heq, hdeclared⟩
      rw [heq]
      exact ⟨nofun, declaredAt_within.mpr ⟨attributes, name, head, inner, rfl, hdeclared⟩⟩
    · rintro ⟨hne, hdeclared⟩
      cases path with
      | nil => exact absurd rfl hne
      | cons i path =>
        obtain ⟨attributes', name', head', inner', hitem, hwithin⟩ :=
          (declaredAt_within (p := ⟨path, index⟩)).mp hdeclared
        cases i with
        | zero =>
          cases hitem
          exact ⟨⟨path, index⟩, rfl, hwithin⟩
        | succ i => cases hitem
  | .verbatim _ => enumerates_below_nil rfl
  | .leaf _ form _ _ => by
    cases form <;> exact enumerates_below_nil rfl

/-- What is marked inside items. -/
theorem enumerates_below_items (marker scope : String) (around : List String) :
    ∀ items : List Item, Enumerates Place.LevelFirst (DeclaredBelow marker scope items)
      (Scan.ofItems marker scope around items).declarations
  | [] => by
    refine .nil ?_
    rintro ⟨path, index⟩ d ⟨hne, around, level, hlevel, -⟩
    cases path with
    | nil => exact hne rfl
    | cons i path => cases hlevel
  | item :: rest => by
    -- The places in the other items are counted with one item more in front of them.
    have hfirst := enumerates_below_item marker scope around item
    have hrest := (enumerates_below_items marker scope around rest).renumber
      (r := Place.LevelFirst) Place.behind fun hlt => hlt.behind
    refine (hfirst.append hrest ?_).congr fun p d => (declaredBelow_cons d p).symm
    rintro p d _ d' hbelow ⟨q, rfl, hbelow'⟩
    exact hbelow.isFirst.levelFirst hbelow.1 hbelow'.1

end

/-! ### Modules with files -/

/-- A module that is declared in a level itself. -/
theorem moduleAt_here {scope : String} {outer : List String} {items : List Item} {i : Nat}
    {m : ModuleFile} :
    ModuleAt scope outer items ⟨[], i⟩ m ↔
      ∃ attributes name head body,
        items[i]? = some (.leaf attributes (.moduleFile name) head body) ∧
        m = ⟨Scan.inner scope name.name, outer, name.name, Scan.pathOf attributes⟩ := by
  have hscope : ∀ name : String, ModulePath.ofSegments [scope, name] = Scan.inner scope name :=
    fun _ => rfl
  constructor
  · rintro ⟨around, level, attributes, name, head, body, hlevel, hitem, rfl⟩
    obtain ⟨rfl, rfl⟩ := Prod.mk.inj (Option.some.inj hlevel)
    refine ⟨attributes, name, head, body, hitem, ?_⟩
    rw [List.append_nil, ← hscope]
    rfl
  · rintro ⟨attributes, name, head, body, hitem, rfl⟩
    refine ⟨[], items, attributes, name, head, body, rfl, hitem, ?_⟩
    rw [List.append_nil, ← hscope]
    rfl

/-- A module that is declared inside an inline module. -/
theorem moduleAt_within {scope : String} {outer : List String} {items : List Item} {i : Nat}
    {p : Place} {m : ModuleFile} :
    ModuleAt scope outer items (p.within i) m ↔
      ∃ attributes name head inner, items[i]? = some (.inlineModule attributes name head inner) ∧
        ModuleAt (Scan.inner scope name.name) (outer ++ [name.name]) inner p m := by
  constructor
  · rintro ⟨around, level, attributes, name, head, body, hlevel, hitem, rfl⟩
    obtain ⟨attributes', name', head', inner, names, hmodule, hbelow, rfl⟩ :=
      levelAt?_cons_eq_some.mp hlevel
    refine ⟨attributes', name', head', inner, hmodule, names, level, attributes, name, head, body,
      hbelow, hitem, ?_⟩
    rw [ofSegments_inner, List.append_assoc]
    rfl
  · rintro ⟨attributes', name', head', inner, hmodule, names, level, attributes, name, head, body,
      hbelow, hitem, rfl⟩
    refine ⟨name'.name :: names, level, attributes, name, head, body,
      levelAt?_cons_eq_some.mpr ⟨attributes', name', head', inner, names, hmodule, hbelow, rfl⟩,
      hitem, ?_⟩
    rw [ofSegments_inner, List.append_assoc]
    rfl

/-- A module that is declared in a single item is that item or inside it. -/
theorem ModuleAt.isFirst {scope : String} {outer : List String} {item : Item} {p : Place}
    {m : ModuleFile} (h : ModuleAt scope outer [item] p m) : p.IsFirst := by
  obtain ⟨path, index⟩ := p
  obtain ⟨around, level, attributes, name, head, body, hlevel, hitem, -⟩ := h
  cases path with
  | nil =>
    cases hlevel
    cases index with
    | zero => rfl
    | succ index => cases hitem
  | cons i path =>
    cases i with
    | zero => rfl
    | succ i => cases hlevel

/-- A module that is declared in some items is declared in the first, or in the
others. -/
theorem moduleAt_cons {scope : String} {outer : List String} {item : Item} {rest : List Item}
    (m : ModuleFile) (p : Place) :
    ModuleAt scope outer (item :: rest) p m ↔
      ModuleAt scope outer [item] p m ∨
        ∃ q : Place, p = q.behind ∧ ModuleAt scope outer rest q m := by
  refine Place.forall_iff_behind (R := fun p => ModuleAt scope outer (item :: rest) p m)
    (S := fun p => ModuleAt scope outer [item] p m)
    (T := fun p => ModuleAt scope outer rest p m) ?_ ?_ ?_ p
  -- A place in the items themselves and one inside of one of them are told apart by the path.
  · rintro ⟨path, index⟩ hfirst
    cases path with
    | nil =>
      obtain rfl : index = 0 := hfirst
      rw [moduleAt_here, moduleAt_here]
      exact Iff.rfl
    | cons i path =>
      obtain rfl : i = 0 := hfirst
      exact Iff.rfl
  · rintro ⟨path, index⟩
    cases path with
    | nil =>
      rw [moduleAt_here]
      exact moduleAt_here
    | cons i path =>
      show ModuleAt scope outer (item :: rest) ⟨(i + 1) :: path, index⟩ m ↔ _
      simp only [ModuleAt, levelAt?_succ]
  · intro q h
    exact q.not_isFirst_behind h.isFirst

/-- An item that is no inline module declares at most itself. -/
theorem moduleAt_single {scope : String} {outer : List String} {item : Item}
    (h : item.isInline = false) (p : Place) (m : ModuleFile) :
    ModuleAt scope outer [item] p m ↔ p = ⟨[], 0⟩ ∧
      ∃ attributes name head body, item = .leaf attributes (.moduleFile name) head body ∧
        m = ⟨Scan.inner scope name.name, outer, name.name, Scan.pathOf attributes⟩ := by
  obtain ⟨path, index⟩ := p
  cases path with
  | nil =>
    rw [moduleAt_here]
    cases index <;> simp
  | cons i path =>
    refine iff_of_false ?_ ?_
    · intro hmodule
      obtain ⟨attributes, name, head, inner, hitem, -⟩ :=
        (moduleAt_within (p := ⟨path, index⟩)).mp hmodule
      obtain rfl := List.mem_singleton.mp (List.mem_of_getElem? hitem)
      cases h
    · rintro ⟨heq, -⟩
      cases heq

mutual

/-- The modules that are declared in an item. -/
theorem enumerates_modules_item (marker scope : String) (around : List String) :
    ∀ item : Item, Enumerates Place.DepthFirst (ModuleAt scope around [item])
      (Scan.ofItem marker scope around item).modules
  | .inlineModule attributes name head inner => by
    have hinner := (enumerates_modules_items marker (Scan.inner scope name.name)
      (around ++ [name.name]) inner).renumber (r := Place.DepthFirst) (Place.within 0)
      fun hlt => hlt.within 0
    refine hinner.congr ?_
    rintro ⟨path, index⟩ m
    constructor
    · rintro ⟨p, heq, hmodule⟩
      rw [heq]
      exact moduleAt_within.mpr ⟨attributes, name, head, inner, rfl, hmodule⟩
    · intro hmodule
      cases path with
      | nil =>
        -- An inline module is not itself a module with a file.
        obtain ⟨_, _, _, _, hitem, -⟩ := moduleAt_here.mp hmodule
        cases index <;> cases hitem
      | cons i path =>
        obtain ⟨attributes', name', head', inner', hitem, hwithin⟩ :=
          (moduleAt_within (p := ⟨path, index⟩)).mp hmodule
        cases i with
        | zero =>
          cases hitem
          exact ⟨⟨path, index⟩, rfl, hwithin⟩
        | succ i => cases hitem
  | .verbatim _ => by
    refine .nil fun p m hmodule => ?_
    obtain ⟨-, _, _, _, _, hitem, -⟩ := (moduleAt_single rfl p m).mp hmodule
    cases hitem
  | .leaf attributes form head body => by
    cases form with
    | moduleFile name =>
      refine .singleton (i := ⟨[], 0⟩) fun p m => ?_
      rw [moduleAt_single rfl]
      refine and_congr_right fun _ => ?_
      constructor
      · rintro ⟨_, _, _, _, hitem, rfl⟩
        cases hitem
        rfl
      · intro hm
        exact ⟨attributes, name, head, body, rfl, hm⟩
    | enumeration _ _ _ | implementation _ | plain _ _ =>
      refine .nil fun p m hmodule => ?_
      obtain ⟨-, _, _, _, _, hitem, -⟩ := (moduleAt_single rfl p m).mp hmodule
      cases hitem

/-- The modules that are declared in items, in the order of the text. -/
theorem enumerates_modules_items (marker scope : String) (around : List String) :
    ∀ items : List Item, Enumerates Place.DepthFirst (ModuleAt scope around items)
      (Scan.ofItems marker scope around items).modules
  | [] => by
    refine .nil ?_
    rintro ⟨path, index⟩ m ⟨around, level, attributes, name, head, body, hlevel, hitem, -⟩
    cases path with
    | nil =>
      cases hlevel
      cases hitem
    | cons i path => cases hlevel
  | item :: rest => by
    have hfirst := enumerates_modules_item marker scope around item
    have hrest := (enumerates_modules_items marker scope around rest).renumber
      (r := Place.DepthFirst) Place.behind fun hlt => hlt.behind
    refine (hfirst.append hrest ?_).congr fun p m => (moduleAt_cons m p).symm
    rintro p m _ m' hmodule ⟨q, rfl, -⟩
    exact hmodule.isFirst.depthFirst q

end

end EnumCompanion
