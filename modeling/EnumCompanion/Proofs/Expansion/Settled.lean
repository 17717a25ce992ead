import EnumCompanion.Proofs.Companion.Items
import EnumCompanion.Proofs.Declaration.Named
import EnumCompanion.Proofs.Declaration.Summary
import EnumCompanion.Proofs.Expansion.Scanned

/-!
# `EnumCompanion.Proofs.Expansion.Settled`: nothing is left to expand

An expansion takes every marker away and adds the items of companions, so
whether there is a marker in what it gives is a matter of these items. A
companion has none: it is written between braces that close where they
should, unless the path to the runtime is no path and closes them itself.

* `AreSettled`: items without a marker, inline modules included.
* `Grown.areSettled_iff`: what a module grows to is settled if what is added
  to it is, by recursion on how it grows.
* `moduleItems_eq_self_iff`: an expansion leaves settled items alone, and no
  others.
* `areSettled_added`: the items of a companion are settled.
* `enhancer_settles`: the attribute on a module, expanded once and then
  again.
-/

set_option autoImplicit false

namespace EnumCompanion.Expansion

open EnumCompanion.Companion (Style)

/-! ### Items without a marker -/

mutual

/-- Neither the item nor any item inside it carries the marker. -/
def IsSettled : Item → Prop
  | .inlineModule attributes name head items =>
    (Item.inlineModule attributes name head items).isMarked marker = false ∧ AreSettled items
  | item => item.isMarked marker = false

/-- No item carries the marker, and none inside them. -/
def AreSettled : List Item → Prop
  | [] => True
  | item :: rest => IsSettled item ∧ AreSettled rest

end

theorem areSettled_iff {items : List Item} :
    AreSettled items ↔ ∀ item ∈ items, IsSettled item := by
  induction items with
  | nil => simp [AreSettled]
  | cons item items ih => rw [AreSettled, ih, List.forall_mem_cons]

@[simp] theorem areSettled_append {items more : List Item} :
    AreSettled (items ++ more) ↔ AreSettled items ∧ AreSettled more := by
  simp only [areSettled_iff, List.forall_mem_append]

theorem areSettled_flatMap {α : Type} {f : α → List Item} {as : List α} :
    AreSettled (as.flatMap f) ↔ ∀ a ∈ as, AreSettled (f a) := by
  induction as with
  | nil => simp [AreSettled]
  | cons a as ih => rw [List.flatMap_cons, areSettled_append, ih, List.forall_mem_cons]

/-- An item that is no module is settled if it is not marked. -/
theorem isSettled_of_not_inline {item : Item} (hitem : isInlineModule item = false) :
    IsSettled item ↔ item.isMarked marker = false := by
  cases item with
  | verbatim ts => rw [IsSettled]; simp
  | leaf attributes form head body => rw [IsSettled]; simp
  | inlineModule attributes name head items => cases hitem

/-- An item that is settled is not marked. -/
theorem IsSettled.not_marked {item : Item} (h : IsSettled item) :
    item.isMarked marker = false := by
  cases hitem : isInlineModule item with
  | false => exact (isSettled_of_not_inline hitem).mp h
  | true =>
    cases item with
    | inlineModule attributes name head items => exact h.1
    | _ => cases hitem

/-! ### What a module grows to -/

/-- An item without its marker is not marked. -/
theorem isMarked_unmarked (item : Item) : (item.unmarked marker).isMarked marker = false := by
  have hnone : ∀ attributes : List Attribute,
      (attributes.filter (!Attribute.isMarker marker ·)).any (Attribute.isMarker marker) =
        false := by
    simp
  cases item with
  | verbatim ts => rfl
  | leaf attributes form head body => exact hnone attributes
  | inlineModule attributes name head items => exact hnone attributes

mutual

/-- What a module grows to is settled exactly if what its declarations add
is. -/
theorem Grown.areSettled_iff {style : Style} {items grown : List Item} {ds : List Declaration} :
    Grown style items ds grown → (AreSettled grown ↔ ∀ d ∈ ds, AreSettled (added style d))
  | .level _ hinner => by
    rw [areSettled_append, hinner.areSettled_iff, areSettled_flatMap, List.forall_mem_append,
      and_comm]

theorem GrownInside.areSettled_iff {style : Style} {items kept : List Item}
    {ds : List Declaration} :
    GrownInside style items ds kept → (AreSettled kept ↔ ∀ d ∈ ds, AreSettled (added style d))
  | .nil => by simp [AreSettled]
  | @GrownInside.module _ attributes name head _ grown _ _ _ _ hitems hrest => by
    have hunmarked := isMarked_unmarked (.inlineModule attributes name head grown)
    have hmodule : IsSettled ((Item.inlineModule attributes name head grown).unmarked marker) ↔
        AreSettled grown := and_iff_right hunmarked
    rw [AreSettled, hmodule, hitems.areSettled_iff, hrest.areSettled_iff, List.forall_mem_append]
  | @GrownInside.other _ item _ _ _ hitem hrest => by
    have hother : isInlineModule (item.unmarked marker) = false := by
      cases item <;> first | rfl | cases hitem
    have hsettled := (isSettled_of_not_inline hother).mpr (isMarked_unmarked item)
    rw [AreSettled, and_iff_right hsettled, hrest.areSettled_iff]

end

/-! ### Settled items are left alone -/

section

variable {style : Style} {scope : String}

/-- An item without the marker is its own. -/
theorem unmarked_of_not_marked {item : Item} (h : item.isMarked marker = false) :
    item.unmarked marker = item := by
  have hall : ∀ attributes : List Attribute, attributes.any (Attribute.isMarker marker) = false →
      attributes.filter (!Attribute.isMarker marker ·) = attributes := by
    intro attributes hany
    rw [List.filter_eq_self]
    intro a ha
    simpa using List.any_eq_false.mp hany a ha
  cases item with
  | verbatim ts => rfl
  | leaf attributes form head body => exact congrArg (Item.leaf · form head body) (hall _ h)
  | inlineModule attributes name head items =>
    exact congrArg (Item.inlineModule · name head items) (hall _ h)

/-- Among settled items nothing is declared. -/
theorem marked_of_areSettled {items : List Item} (h : AreSettled items) :
    Declaration.marked scope marker items = [] := by
  have hnone : items.filter (·.isMarked marker) = [] := by
    rw [List.filter_eq_nil_iff]
    intro item hitem
    simp [(areSettled_iff.mp h item hitem).not_marked]
  rw [Declaration.marked, hnone, List.map_nil]

/-- Going through settled items, an expansion changes and reports nothing. -/
theorem expandItems_of_areSettled (scope : String) :
    ∀ items : List Item, AreSettled items → expandItems style scope items = (items, [])
  | [], _ => rfl
  | .inlineModule attributes name head items :: rest, h => by
    have hitems := expandItems_of_areSettled (Scan.inner scope name.name) items h.1.2
    have hrest := expandItems_of_areSettled scope rest h.2
    have hnone : Declaration.marked (Scan.inner scope name.name) marker items = [] :=
      marked_of_areSettled h.1.2
    rw [expandItems_cons, expandItem_inlineModule, moduleItems_eq, hitems, hrest, hnone]
    simp only [List.flatMap_nil, List.append_nil, List.filterMap_nil]
    rw [unmarked_of_not_marked h.1.1]
  | .leaf attributes form head body :: rest, h => by
    have hrest := expandItems_of_areSettled scope rest h.2
    rw [expandItems_cons, expandItem_of_not_inline rfl, hrest,
      unmarked_of_not_marked h.1.not_marked]
    rfl
  | .verbatim ts :: rest, h => by
    rw [expandItems_cons, expandItem_of_not_inline rfl, expandItems_of_areSettled scope rest h.2]
    rfl

/-- A module of settled items is left as it is. -/
theorem moduleItems_of_areSettled {items : List Item} (h : AreSettled items) :
    moduleItems style scope items = (items, []) := by
  rw [moduleItems_eq, expandItems_of_areSettled scope items h, marked_of_areSettled h]
  simp

/-- An item that is its own without the marker is not marked. -/
theorem not_marked_of_unmarked {item : Item} (h : item.unmarked marker = item) :
    item.isMarked marker = false := by
  rw [← h]
  exact isMarked_unmarked item

/-- An expansion gives an item for each that it goes through. -/
theorem length_expandItems (scope : String) (items : List Item) :
    (expandItems style scope items).1.length = items.length := by
  induction items with
  | nil => rfl
  | cons item rest ih => rw [expandItems_cons, List.length_cons, ih, List.length_cons]

/-- A module that is left as it is gets nothing added, as that would make it
longer. -/
theorem expandItems_of_moduleItems {items : List Item}
    (h : (moduleItems style scope items).1 = items) :
    (expandItems style scope items).1 = items := by
  rw [moduleItems_eq] at h
  exact List.append_inj_left (h.trans (List.append_nil items).symm) (length_expandItems scope items)

/-- Items that an expansion does not change are settled. -/
theorem areSettled_of_expandItems (scope : String) :
    ∀ items : List Item, (expandItems style scope items).1 = items → AreSettled items
  | [], _ => trivial
  | .inlineModule attributes name head items :: rest, h => by
    obtain ⟨hitem, hrest⟩ := List.cons.inj h
    obtain ⟨hattributes, -, -, hitems⟩ := Item.inlineModule.inj hitem
    have hmarked : (Item.inlineModule attributes name head items).isMarked marker = false :=
      not_marked_of_unmarked (congrArg (Item.inlineModule · name head items) hattributes)
    have hinner := areSettled_of_expandItems _ items (expandItems_of_moduleItems hitems)
    exact ⟨⟨hmarked, hinner⟩, areSettled_of_expandItems scope rest hrest⟩
  | .leaf attributes form head body :: rest, h => by
    obtain ⟨hitem, hrest⟩ := List.cons.inj h
    exact ⟨(isSettled_of_not_inline rfl).mpr (not_marked_of_unmarked hitem),
      areSettled_of_expandItems scope rest hrest⟩
  | .verbatim ts :: rest, h =>
    ⟨(isSettled_of_not_inline rfl).mpr rfl,
      areSettled_of_expandItems scope rest (List.cons.inj h).2⟩

/-- Exactly the modules of settled items are left as they are. -/
theorem moduleItems_eq_self_iff {items : List Item} :
    (moduleItems style scope items).1 = items ↔ AreSettled items := by
  constructor
  · exact fun h => areSettled_of_expandItems scope items (expandItems_of_moduleItems h)
  · intro h
    rw [moduleItems_of_areSettled h]

end

/-! ### Companions are settled -/

/-- The types of parameters are whole, as they are spelt from clean tokens. -/
theorem isSource_type {d : Declaration} {name : Ident} {s : Summary}
    (hd : ∀ b ∈ d.blocks, ∀ m ∈ b.methods, m.IsNamed) (h : d.Summarizes name s) :
    ∀ p ∈ s.parameters, Token.IsSource p.type := by
  obtain ⟨attributes, isGeneric, variants, head, body, -, hsummary⟩ := h.item
  obtain ⟨-, -, -, rfl⟩ := Declaration.enumSummary_eq_ok_iff.mp hsummary
  intro p hp
  obtain ⟨m, hm, hp⟩ := List.mem_flatMap.mp hp
  obtain ⟨a, ha, hp⟩ := List.mem_filterMap.mp hp
  obtain ⟨i, -, rfl⟩ := Option.map_eq_some_iff.mp hp
  obtain ⟨b, hb, hm⟩ := List.mem_flatMap.mp (List.mem_filter.mp hm).1
  exact Token.isSource_spelled (hd b hb m hm a ha).clean

/-- What a declaration adds is settled, if its constructors have names. -/
theorem areSettled_added {style : Style} (hstyle : style.IsReadable) {d : Declaration}
    (hd : ∀ b ∈ d.blocks, ∀ m ∈ b.methods, m.IsNamed) : AreSettled (added style d) := by
  unfold added
  split
  next c hc =>
    obtain ⟨⟨name, hsummary⟩, htext⟩ := Declaration.companion?_eq_some_iff.mp hc
    obtain ⟨hdefect, htext⟩ := Companion.generate_ok_iff.mp htext
    cases hitems : SourceText.items? c.text with
    | none => trivial
    | some items =>
      rw [htext] at hitems
      obtain ⟨lints, head, more, block, head', body, rfl⟩ :=
        Companion.items?_text hstyle hdefect (isSource_type hd hsummary) hitems
      exact ⟨rfl, rfl, trivial⟩
  next => trivial

/-- A declaration with a summary adds the items that the text of the companion
is read as, and reports nothing. -/
theorem added_of_summary (style : Companion.Style) {d : Declaration} {s : Summary}
    {items : List Item} (hsummary : d.summary? = .ok (some s)) (hdefect : s.defect? = none)
    (hitems :
      SourceText.items? ((Companion.code style s).text style.indentWidth) = some items) :
    added style d = items ∧ fault? style d = none := by
  have hcompanion : d.companion? style =
      .ok (some ⟨s, (Companion.code style s).text style.indentWidth⟩) := by
    rw [Declaration.companion?_of_some hsummary, Companion.generate_ok_iff.mpr ⟨hdefect, rfl⟩]
    rfl
  simp [added, fault?, hcompanion, hitems]

/-! ### The attribute on a module -/

/-- What a result holds, if it holds anything. -/
theorem eq_ok_of_toOption {ε α : Type} {x : Except ε α} {a : α} (h : x.toOption = some a) :
    x = .ok a := by
  cases x with
  | error e => cases h
  | ok b => exact congrArg Except.ok (Option.some.inj h)

/-- On an inline module the attribute keeps the module, grown by the companions
of its declarations; what is kept is the one way to write it. If the module has
the tokens of a text, and the style can be read, then nothing in the grown module
carries the marker: it expands to itself and reports nothing, whatever the
options, and so does the attribute on any tokens that read as this module. -/
theorem enhancer_settles {arguments input : List Token} {o : Options}
    {attributes : List Attribute} {name : Ident} {head : List Token} {items : List Item}
    (harguments : Options.read arguments = .ok o)
    (hinput : Grammar.item? input = some (.inlineModule attributes name head items)) :
    let grown := (moduleItems o.style (o.scope.getD name.name) items).1
    let output := Item.inlineModule attributes name head grown
    Grown o.style items (Scan.file marker (o.scope.getD name.name) items).declarations grown ∧
    (enhancer arguments input).kept = output.tokens ∧
    (∀ ts, Item.WrittenAs output ts ↔ ts = (enhancer arguments input).kept) ∧
    (Token.AreClean input → o.style.IsReadable →
      AreSettled grown ∧ (∀ p : Options, ofItem p output = ⟨output.tokens, []⟩) ∧
      ∀ again ts p, Options.read again = .ok p → Grammar.item? ts = some output →
        enhancer again ts = ⟨output.tokens, []⟩) := by
  intro grown output
  have hgrown := grown_moduleItems o.style (o.scope.getD name.name) items
  have hkept : (enhancer arguments input).kept = output.tokens := by
    simp only [enhancer, harguments, hinput]
    rfl
  refine ⟨hgrown, hkept, fun ts => hkept ▸ Item.writtenAs_iff, fun hclean hstyle => ?_⟩
  have hnamed := Item.areNamed_iff.mp (Grammar.isNamed_of_item? hclean hinput).2
  have hsettled : AreSettled grown := hgrown.areSettled_iff.mpr fun d hd => by
    obtain ⟨path, level, -, hlevel, hmarked⟩ :=
      Scan.exists_level_of_mem_file (P := fun _ => True) (fun _ _ => trivial) trivial hnamed hd
    exact areSettled_added hstyle (Declaration.isNamed_of_mem_blocks hlevel hmarked)
  have hagain (p : Options) : ofItem p output = ⟨output.tokens, []⟩ := by
    simp only [output, ofItem, moduleItems_of_areSettled hsettled]
  refine ⟨hsettled, hagain, fun again ts p hread hts => ?_⟩
  simp only [enhancer, hread, hts, hagain p]

/-- What a function gives for the name and the items of an inline module. -/
def inModule? {α : Type} (f : Ident → List Item → α) : Item → Option α
  | .inlineModule _ name _ items => some (f name items)
  | _ => none

/-- Where the function gives something, there is an inline module. -/
theorem exists_of_inModule? {α : Type} {f : Ident → List Item → α} {item? : Option Item} {a : α}
    (h : item?.bind (inModule? f) = some a) :
    ∃ attributes name head items,
      item? = some (.inlineModule attributes name head items) ∧ f name items = a := by
  obtain ⟨item, rfl, hitem⟩ := Option.bind_eq_some_iff.mp h
  cases item with
  | verbatim ts => cases hitem
  | leaf attributes form head body => cases hitem
  | inlineModule attributes name head items =>
    exact ⟨attributes, name, head, items, rfl, Option.some.inj hitem⟩

/-- A module with two marked enums, one of them in a module inside it, and a
marked module in a file of its own. -/
def calendar : String :=
  "mod calendar \x7b
    #[enum_enhancer] enum Quarter \x7b Q1, Q2 \x7d
    mod shifts \x7b #[companions::enum_enhancer] #[derive(Clone)] enum Shift \x7b Day \x7d \x7d
    #[enum_enhancer] mod moons;
  \x7d"

/-- A module with one marked enum. -/
def shifts : String :=
  "mod shifts \x7b #[enum_enhancer] #[derive(Clone)] enum Shift \x7b Day \x7d \x7d"

/-- The summary of the enum in this module. -/
def shiftSummary : Summary := ⟨"shifts", "Shift", ["Day"], []⟩

open Companion in
/-- The tokens of the module with the companion of the enum read as this
module. -/
theorem shifts_readsBack :
    ((Token.lex? shifts).bind Grammar.item?).any (fun
      | .inlineModule attributes name head items =>
        (SourceText.items? ((code ⟨"::enum_enhancer", 4⟩ shiftSummary).text 4)).any fun added =>
          let output : Item :=
            .inlineModule attributes name head ((expandItems {} "shifts" items).1 ++ added)
          Grammar.item? output.tokens = some output
      | _ => false) = true := by
  rw [SourceText.items?, lex?_text, Code.text_eq]
  -- The text is taken apart into lists of characters first, which are fast to evaluate.
  simp only [code, shiftSummary, List.map_nil, List.nil_append, functionLines, constantLines,
    Function.block, Function.tail, associate, enumList, table, writeAll, Stmt.write,
    Page.closeBlock, Page.openBlock, Page.closeBlockWith, Page.line, Page.dedent, Page.indent,
    Page.margin, Function.header, Code.preamble, String.toList_append, Expr.text_table,
    Expr.text_listOf, Expr.text_variants, Expr.text_applied, Expr.text_pair, Binder.text]
  decide +kernel

/-- The module with one enum grows by the companion of it, and the tokens of what
it has grown into read as that. -/
theorem exists_grown_shifts :
    ∃ input attributes name head items added, Token.lex? shifts = some input ∧
      let output := Item.inlineModule attributes name head
        (items.map (Item.unmarked marker) ++ added)
      Grammar.item? input = some (.inlineModule attributes name head items) ∧
      SourceText.items? ((Companion.code {} shiftSummary).text 4) = some added ∧
      (moduleItems {} name.name items).1 = items.map (Item.unmarked marker) ++ added ∧
      Grammar.item? output.tokens = some output := by
  have hfound : ((Token.lex? shifts).bind fun input =>
      (Grammar.item? input).bind (inModule? fun name items =>
        (name.name, items.all (!isInlineModule ·),
          (Declaration.marked name.name marker items).map fun d => d.summary?.toOption))) =
      some ("shifts", true, [some (some shiftSummary)]) := by
    decide +kernel
  obtain ⟨input, hlex, hfound⟩ := Option.bind_eq_some_iff.mp hfound
  obtain ⟨attributes, name, head, items, hinput, hfound⟩ := exists_of_inModule? hfound
  obtain ⟨hname, hflat, hdeclarations⟩ :
      name.name = "shifts" ∧ items.all (!isInlineModule ·) = true ∧ _ = _ := by
    simpa only [Prod.mk.injEq] using hfound
  obtain ⟨d, hd, hsummary⟩ := List.map_eq_singleton_iff.mp hdeclarations
  have hexpanded : expandItems {} "shifts" items = (items.map (Item.unmarked marker), []) :=
    expandItems_of_not_inline fun item hitem => by
      simpa using List.all_eq_true.mp hflat item hitem
  -- The tokens that the companion brings in are read back as its items.
  have hback := shifts_readsBack
  rw [hlex, Option.bind_some, hinput, Option.any_some] at hback
  obtain ⟨added, hitems, hback⟩ := Option.any_eq_true _ _ |>.mp hback
  simp only [hexpanded, decide_eq_true_eq] at hback
  have hadded : Expansion.added {} d = added :=
    (added_of_summary _ (eq_ok_of_toOption hsummary) (by decide +kernel) hitems).1
  refine ⟨input, attributes, name, head, items, added, hlex, hinput, hitems, ?_, hback⟩
  rw [moduleItems_eq, hd, hname, hexpanded, List.flatMap_singleton, hadded]

/-- The module with the companions of both enums expands to itself. So does the
attribute on the tokens that it has made of a module, whatever arguments it is
given then. -/
theorem calendar_settles :
    (∃ input attributes name head items,
      let found := (Scan.file marker name.name items).declarations
      let grown := (moduleItems {} name.name items).1
      let output := Item.inlineModule attributes name head grown
      Token.lex? calendar = some input ∧
      Grammar.item? input = some (.inlineModule attributes name head items) ∧
      found.map (fun d => (d.place, (d.companion? {}).toOption.join.isSome)) =
        [("calendar::Quarter", true), ("calendar::moons", false),
          ("calendar::shifts::Shift", true)] ∧
      Grown {} items found grown ∧ (enhancer [] input).kept = output.tokens ∧
      Item.WrittenAs output (enhancer [] input).kept ∧
      AreSettled grown ∧ ∀ p : Options, ofItem p output = ⟨output.tokens, []⟩) ∧
    ∃ input attributes name head items added, Token.lex? shifts = some input ∧
      let output := Item.inlineModule attributes name head
        (items.map (Item.unmarked marker) ++ added)
      Grammar.item? input = some (.inlineModule attributes name head items) ∧
      SourceText.items? ((Companion.code {} shiftSummary).text 4) = some added ∧
      (enhancer [] input).kept = output.tokens ∧
      enhancer shapesScope output.tokens = ⟨output.tokens, []⟩ := by
  have hstyle : Options.none.style.IsReadable := Companion.Style.isReadable_default
  have harguments : Options.read [] = .ok .none := rfl
  constructor
  · have hfound : ((Token.lex? calendar).bind fun input =>
        (Grammar.item? input).bind (inModule? fun name items =>
          (Scan.file marker name.name items).declarations.map fun d =>
            (d.place, (d.companion? {}).toOption.join.isSome))) =
        some [("calendar::Quarter", true), ("calendar::moons", false),
          ("calendar::shifts::Shift", true)] := by
      decide +kernel
    obtain ⟨input, hlex, hfound⟩ := Option.bind_eq_some_iff.mp hfound
    obtain ⟨attributes, name, head, items, hinput, hfound⟩ := exists_of_inModule? hfound
    obtain ⟨hgrown, hkept, hwritten, hsettles⟩ := enhancer_settles harguments hinput
    obtain ⟨hsettled, hagain, -⟩ := hsettles (Token.lex?_areClean hlex) hstyle
    exact ⟨input, attributes, name, head, items, hlex, hinput, hfound, hgrown, hkept,
      (hwritten _).mpr rfl, hsettled, hagain⟩
  · have hshapes : Options.read shapesScope = .ok ⟨some "crate::shapes", none⟩ :=
      eq_ok_of_toOption (by decide +kernel)
    obtain ⟨input, attributes, name, head, items, added, hlex, hinput, hitems, hgrown, hback⟩ :=
      exists_grown_shifts
    obtain ⟨-, hkept, -, hsettles⟩ := enhancer_settles harguments hinput
    obtain ⟨-, -, hagain⟩ := hsettles (Token.lex?_areClean hlex) hstyle
    have hsame : (moduleItems Options.none.style (Options.none.scope.getD name.name) items).1 =
        items.map (Item.unmarked marker) ++ added := hgrown
    rw [hsame] at hkept hagain
    exact ⟨input, attributes, name, head, items, added, hlex, hinput, hitems, hkept,
      hagain _ _ _ hshapes hback⟩

/-! ### A path that is no path -/

/-- What is given for a path to the runtime: it closes what the companion
has open, and brings a marked enum and the opening of what the companion
closes. -/
def escapingRuntime : String :=
  "u8>\x7bloop\x7b\x7d\x7d\x7d#[enum_enhancer]enum E\x7bA\x7dconst S:&str=\";" ++
    "impl F\x7bfn g()\x7bh(r"

/-- The arguments with this path. -/
def escapingArguments : List Token :=
  (Token.lex? ("runtime = \"u8>\x7bloop\x7b\x7d\x7d\x7d#[enum_enhancer]enum E\x7bA\x7d" ++
    "const S:&str=\\\";impl F\x7bfn g()\x7bh(r\"")).getD []

/-- A module with an enum that has a lookup by one parameter. -/
def escapingModule : List Token :=
  (Token.lex? "mod m \x7b #[enum_enhancer] enum F \x7b\x7d
    impl F \x7b fn new(x: u8) -> F \x7b loop \x7b\x7d \x7d \x7d \x7d").getD []

/-- The summary of the enum in this module. -/
def escapingSummary : Summary := ⟨"m", "F", [], [⟨"x", "u8"⟩]⟩

open Companion in
/-- The companion of the enum brings the marker in. -/
theorem items?_escaping :
    ∃ added, SourceText.items? ((code ⟨escapingRuntime, 4⟩ escapingSummary).text 4) = some added ∧
      ¬ AreSettled added := by
  have hmarked : ((SourceText.items?
      ((code ⟨escapingRuntime, 4⟩ escapingSummary).text 4)).getD []).any
        (·.isMarked marker) = true := by
    rw [SourceText.items?, lex?_text, Code.text_eq]
    -- The text is taken apart into lists of characters first, which are fast to evaluate.
    simp only [code, escapingSummary, List.map_cons, List.map_nil, List.cons_append,
      List.nil_append, functionLines, constantLines, Function.block, Function.tail, lookup,
      associate, enumList, table, writeAll, Stmt.write, Page.closeBlock, Page.openBlock,
      Page.closeBlockWith, Page.line, Page.dedent, Page.indent, Page.margin, Function.header,
      Code.preamble, String.toList_append, Expr.text_name, Expr.text_table, Expr.text_access,
      Expr.text_equal, Expr.text_found, Expr.text_missing, Expr.text_listOf, Expr.text_variants,
      Expr.text_applied, Expr.text_pair, missingPath, resultPath, Binder.text]
    decide +kernel
  cases hitems : SourceText.items? ((code ⟨escapingRuntime, 4⟩ escapingSummary).text 4) with
  | none => rw [hitems] at hmarked; cases hmarked
  | some added =>
    rw [hitems] at hmarked
    obtain ⟨item, hitem, hmarked⟩ := List.any_eq_true.mp hmarked
    refine ⟨added, rfl, fun hsettled => ?_⟩
    rw [(areSettled_iff.mp hsettled item hitem).not_marked] at hmarked
    cases hmarked

/-- The attribute with these arguments on this module reports nothing, and what
it gives has the marker in it: no expansion leaves that as it is. -/
theorem escaping_not_settled :
    ∃ o attributes name head items,
      Options.read escapingArguments = .ok o ∧
      Grammar.item? escapingModule = some (.inlineModule attributes name head items) ∧
      let grown := (moduleItems o.style (o.scope.getD name.name) items).1
      enhancer escapingArguments escapingModule =
        ⟨(Item.inlineModule attributes name head grown).tokens, []⟩ ∧
      ¬ AreSettled grown ∧ ∀ style scope, (moduleItems style scope grown).1 ≠ grown := by
  have harguments : Options.read escapingArguments = .ok ⟨none, some escapingRuntime⟩ :=
    eq_ok_of_toOption (by decide +kernel)
  have hfound : (Grammar.item? escapingModule).bind (inModule? fun name items =>
      (Scan.file marker name.name items).declarations.map fun d => d.summary?.toOption) =
        some [some (some escapingSummary)] := by
    decide +kernel
  obtain ⟨attributes, name, head, items, hinput, hfound⟩ := exists_of_inModule? hfound
  obtain ⟨d, hd, hsummary⟩ := List.map_eq_singleton_iff.mp hfound
  obtain ⟨more, hmore, hmarked⟩ := items?_escaping
  obtain ⟨hadded, hfault⟩ := added_of_summary ⟨escapingRuntime, 4⟩
    (eq_ok_of_toOption hsummary) (by decide +kernel) hmore
  have hsettled : ¬ AreSettled (moduleItems ⟨escapingRuntime, 4⟩ name.name items).1 := by
    rw [(grown_moduleItems _ name.name items).areSettled_iff, hd, List.forall_mem_singleton,
      hadded]
    exact hmarked
  have hfaults : (moduleItems ⟨escapingRuntime, 4⟩ name.name items).2 = [] := by
    rw [faults_moduleItems, hd]
    simp [hfault]
  refine ⟨_, attributes, name, head, items, harguments, hinput, ?_, hsettled,
    fun style scope heq => hsettled (moduleItems_eq_self_iff.mp heq)⟩
  simp only [enhancer, harguments, hinput]
  exact congrArg (Expansion.mk _) hfaults

end EnumCompanion.Expansion
