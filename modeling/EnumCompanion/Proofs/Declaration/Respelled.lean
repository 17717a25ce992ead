import EnumCompanion.Proofs.Declaration.Complete

/-!
# `EnumCompanion.Proofs.Declaration.Respelled`: raw spellings of names

A name that is no keyword can be spelt raw, and is the same name then. Two
source files may differ in that alone: in how the names of enums, of
variants, of parameters, of modules and of types in `impl` blocks are
spelt. A companion holds names, not spellings. But which blocks belong to
an enum, and which of their functions are its constructors, is told by the
spelling: a type is the enum if it is spelt like it.

* `Ident.respells`, and its like for all that has names: the same but for
  raw spellings.
* `Item.typesFollow`: the types in `impl` blocks that were spelt like an
  enum still are, and no others.
* `companionsOf_respelled`: two files that are the same but for raw
  spellings, in which the types follow the enums, have the same companions.
* `rawSelf_loses_parameter`: if a type does not, they may differ.
-/

set_option autoImplicit false

namespace EnumCompanion

/-! ### The same but for raw spellings -/

/-- Two spellings of one name. A keyword has one spelling only. -/
def Ident.respells (i j : Ident) : Bool :=
  i.name.toList == j.name.toList &&
    (i.raw == j.raw || !isKeyword i.name && !isPathKeyword i.name)

/-- Two spellings of a name in a path, with the same arguments. -/
def Segment.respells (s t : Segment) : Bool :=
  s.name.respells t.name && s.arguments == t.arguments

/-- Two types that are paths with one last name, or that are no paths. -/
def Path.respells (p q : Option Path) : Bool :=
  (p.bind Path.last?).toList.isEqv (q.bind Path.last?).toList Segment.respells

def Variant.respells (v w : Variant) : Bool :=
  v.name.respells w.name && v.isUnit == w.isUnit

/-- Two arguments with one name, or that are patterns both, and with types that
are written alike. -/
def Argument.respells (a b : Argument) : Bool :=
  a.name.toList.isEqv b.name.toList Ident.respells &&
    (Token.spelled a.type).toList == (Token.spelled b.type).toList

def Method.respells (m k : Method) : Bool :=
  m.name.respells k.name && m.hasReceiver == k.hasReceiver &&
    m.arguments.isEqv k.arguments Argument.respells && Path.respells m.result k.result

def Implementation.respells (b c : Implementation) : Bool :=
  b.isInherent == c.isInherent && Path.respells b.self c.self &&
    b.methods.isEqv c.methods Method.respells

def Form.respells : Form → Form → Bool
  | .enumeration name isGeneric variants, .enumeration name' isGeneric' variants' =>
    name.respells name' && isGeneric == isGeneric' && variants.isEqv variants' Variant.respells
  | .implementation block, .implementation block' => block.respells block'
  | .moduleFile name, .moduleFile name' => name.respells name'
  | .plain kind name, .plain kind' name' => kind == kind' && name == name'
  | _, _ => false

/-- The path of an attribute as it is spelt. -/
def Attribute.spelling (a : Attribute) : List (List Char) :=
  a.names.map (·.text.toList)

mutual

/-- Two items that are the same but for raw spellings, as far as companions
depend on them: their tokens may be any. -/
def Item.respells : Item → Item → Bool
  | .verbatim _, .verbatim _ => true
  | .leaf attributes form _ _, .leaf attributes' form' _ _ =>
    attributes.map Attribute.spelling == attributes'.map Attribute.spelling && form.respells form'
  | .inlineModule attributes name _ items, .inlineModule attributes' name' _ items' =>
    attributes.map Attribute.spelling == attributes'.map Attribute.spelling &&
      name.respells name' && Item.allRespell items items'
  | _, _ => false

/-- The same for items one by one. -/
def Item.allRespell : List Item → List Item → Bool
  | [], [] => true
  | item :: rest, item' :: rest' => item.respells item' && Item.allRespell rest rest'
  | _, _ => false

end

/-! ### Types that follow the enums -/

/-- Whether a type is a path that ends in the name, spelt the same way. -/
def Path.endsIn (name : Ident) (p : Option Path) : Bool :=
  (p.bind Path.last?).any (·.name == name)

/-- Whether the types of two blocks follow an enum whose name is spelt as `n`
on one side and as `n'` on the other: the type that an inherent block belongs
to and, if that is the enum, the results of its functions. -/
def Implementation.follows (n n' : Ident) (b b' : Implementation) : Bool :=
  (!b.isInherent || Path.endsIn n b.self == Path.endsIn n' b'.self) &&
    (!b.belongsTo n || (b.methods.zip b'.methods).all fun m =>
      Path.endsIn n m.1.result == Path.endsIn n' m.2.result)

/-- The name of the enum that an item is. -/
def Item.enumName? : Item → Option Ident
  | .leaf _ (.enumeration name _ _) _ _ => some name
  | _ => none

/-- Whether the types of a module follow its marked enums. -/
def Item.moduleFollows (marker : String) (items items' : List Item) : Bool :=
  (items.zip items').all fun e => !e.1.isMarked marker ||
    (e.1.enumName?.toList.zip e.2.enumName?.toList).all fun n =>
      (items.zip items').all fun i =>
        (i.1.block?.toList.zip i.2.block?.toList).all fun b => b.1.follows n.1 n.2 b.2

mutual

/-- Whether the types of inline modules inside an item follow the enums. -/
def Item.typesFollow (marker : String) : Item → Item → Bool
  | .inlineModule _ _ _ items, .inlineModule _ _ _ items' =>
    Item.moduleFollows marker items items' && Item.allTypesFollow marker items items'
  | _, _ => true

/-- The same for items one by one. -/
def Item.allTypesFollow (marker : String) : List Item → List Item → Bool
  | item :: rest, item' :: rest' =>
    item.typesFollow marker item' && Item.allTypesFollow marker rest rest'
  | _, _ => true

end

/-! ### Lists that are related item by item -/

section

variable {α β γ : Type}

theorem forall₂_of_isEqv {r : α → α → Bool} :
    {l l' : List α} → l.isEqv l' r = true → List.Forall₂ (fun a b => r a b = true) l l'
  | [], [], _ => .nil
  | a :: l, b :: l', h => by
    rw [List.isEqv, Bool.and_eq_true] at h
    exact .cons h.1 (forall₂_of_isEqv h.2)

/-- Of two values that are related if they are there, both are there or none
is. -/
theorem cases_of_isEqv {r : α → α → Bool} :
    {o o' : Option α} → o.toList.isEqv o'.toList r = true →
      (∃ a b, o = some a ∧ o' = some b ∧ r a b = true) ∨ o = none ∧ o' = none
  | none, none, _ => .inr ⟨rfl, rfl⟩
  | none, some _, h => by cases h
  | some _, none, h => by cases h
  | some a, some b, h => by
    rw [Option.toList_some, Option.toList_some, List.isEqv, Bool.and_eq_true] at h
    exact .inl ⟨a, b, rfl, rfl, h.1⟩

/-- Related items are next to each other. -/
theorem forall₂_and_mem_zip {R : α → β → Prop} {l : List α} {l' : List β}
    (h : List.Forall₂ R l l') : List.Forall₂ (fun a b => R a b ∧ (a, b) ∈ l.zip l') l l' :=
  List.forall₂_iff_zip.mpr ⟨h.length_eq, fun hmem => ⟨List.forall₂_zip h hmem, hmem⟩⟩

theorem map_filter_eq {R : α → β → Prop} {p : α → Bool} {q : β → Bool} {f : α → γ} {g : β → γ}
    {l : List α} {l' : List β} (h : List.Forall₂ R l l') (hpq : ∀ a b, R a b → p a = q b)
    (hfg : ∀ a b, R a b → p a = true → f a = g b) :
    (l.filter p).map f = (l'.filter q).map g := by
  induction h with
  | nil => rfl
  | @cons a b l l' hab _ ih =>
    cases hp : p a with
    | true =>
      have hq : q b = true := by rw [← hpq a b hab, hp]
      rw [List.filter_cons_of_pos hp, List.filter_cons_of_pos hq, List.map_cons, List.map_cons,
        hfg a b hab hp, ih]
    | false =>
      have hq : ¬ q b = true := by rw [← hpq a b hab, hp]; exact Bool.false_ne_true
      rw [List.filter_cons_of_neg (by simp [hp]), List.filter_cons_of_neg hq, ih]

end

/-! ### Functions and blocks -/

theorem Ident.name_eq_of_respells {i j : Ident} (h : i.respells j = true) : i.name = j.name := by
  simp only [Ident.respells, Bool.and_eq_true, beq_iff_eq, String.toList_inj] at h
  exact h.1

/-- `Self` has one spelling. -/
theorem Ident.isSelf_eq {i j : Ident} (h : i.respells j = true) :
    (i.text == "Self") = (j.text == "Self") := by
  obtain ⟨raw, name⟩ := i
  obtain ⟨raw', name'⟩ := j
  simp only [Ident.respells, Bool.and_eq_true, Bool.or_eq_true, beq_iff_eq, Bool.not_eq_true',
    String.toList_inj] at h
  obtain ⟨rfl, rfl | ⟨-, hpath⟩⟩ := h
  · rfl
  · -- The name is no keyword, so neither spelling is.
    have hne : ∀ raw, ((Ident.mk raw name).text == "Self") = false := by
      intro raw
      rw [beq_eq_false_iff_ne]
      cases raw with
      | true => exact Name.raw_ne (by decide)
      | false =>
        rintro rfl
        exact absurd hpath (by decide)
    rw [hne, hne]

/-- Whether a function is a constructor does not change when its result follows
the enum. -/
theorem Method.isConstructor_eq {n n' : Ident} {m k : Method} (h : m.respells k = true)
    (hends : Path.endsIn n m.result = Path.endsIn n' k.result) :
    m.isConstructor n = k.isConstructor n' := by
  simp only [Method.respells, Bool.and_eq_true, beq_iff_eq] at h
  obtain ⟨⟨⟨-, hreceiver⟩, -⟩, hresult⟩ := h
  unfold Method.isConstructor
  unfold Path.endsIn at hends
  unfold Path.respells at hresult
  rw [hreceiver]
  -- `Self` and the arguments are the same on both sides, and the comparison with the enum
  -- is what `hends` is about.
  rcases cases_of_isEqv hresult with ⟨s, t, hm, hk, hst⟩ | ⟨hm, hk⟩
  · rw [hm, hk] at hends ⊢
    rw [Segment.respells, Bool.and_eq_true, beq_iff_eq] at hst
    simp only [Option.any_some] at hends ⊢
    rw [Ident.isSelf_eq hst.1, hst.2, hends]
  · rw [hm, hk]
    rfl

/-- Whether a block belongs to an enum does not change when it follows the
enum. -/
theorem Implementation.belongsTo_eq {n n' : Ident} {b c : Implementation}
    (h : b.respells c = true) (hfollows : b.follows n n' c = true) :
    b.belongsTo n = c.belongsTo n' := by
  simp only [Implementation.respells, Bool.and_eq_true, beq_iff_eq] at h
  simp only [Implementation.follows, Bool.and_eq_true, Bool.or_eq_true, Bool.not_eq_true',
    beq_iff_eq] at hfollows
  obtain ⟨⟨hinherent, -⟩, -⟩ := h
  show (b.isInherent && Path.endsIn n b.self) = (c.isInherent && Path.endsIn n' c.self)
  rw [← hinherent]
  rcases hfollows.1 with hforeign | hself
  · -- The block of a trait belongs to no enum.
    rw [hforeign]
    rfl
  · rw [hself]

/-- The constructors in blocks that belong to an enum, when the blocks follow
it. -/
theorem constructors_respell {n n' : Ident} {bs cs : List Implementation}
    (h : List.Forall₂ (fun b c => b.respells c = true ∧ b.follows n n' c = true) bs cs)
    (hbelongs : ∀ b ∈ bs, b.belongsTo n = true) :
    List.Forall₂ (fun m k => m.respells k = true) (constructors n bs) (constructors n' cs) := by
  unfold constructors
  induction h with
  | nil => exact .nil
  | @cons b c bs cs hbc _ ih =>
    obtain ⟨hbelongs, hrest⟩ := List.forall_mem_cons.mp hbelongs
    obtain ⟨hrespells, hfollows⟩ := hbc
    rw [List.flatMap_cons, List.flatMap_cons, List.filter_append, List.filter_append]
    refine List.rel_append ?_ (ih hrest)
    simp only [Implementation.respells, Bool.and_eq_true] at hrespells
    simp only [Implementation.follows, hbelongs, Bool.and_eq_true, Bool.or_eq_true,
      Bool.not_true, Bool.false_eq_true, false_or, List.all_eq_true, beq_iff_eq] at hfollows
    have hmethods := forall₂_and_mem_zip (forall₂_of_isEqv hrespells.2)
    refine (List.rel_filter (fun m k hmk => ?_) hmethods).imp fun m k hmk => hmk.1
    exact Bool.eq_iff_iff.mp (Method.isConstructor_eq hmk.1 (hfollows.2 (m, k) hmk.2))

/-- The parameters of a constructor. -/
theorem Method.parameters_eq {m k : Method} (h : m.respells k = true) (enumName : String) :
    m.parameters enumName = k.parameters enumName := by
  simp only [Method.respells, Bool.and_eq_true, beq_iff_eq] at h
  obtain ⟨⟨⟨hname, -⟩, harguments⟩, -⟩ := h
  unfold Method.parameters
  refine mapM_congr ((forall₂_of_isEqv harguments).imp fun a b hab => ?_)
  -- A pattern in the place of a name is reported with the name of the function.
  simp only [Argument.respells, Bool.and_eq_true, beq_iff_eq, String.toList_inj] at hab
  obtain ⟨hargument, htype⟩ := hab
  rcases cases_of_isEqv hargument with ⟨i, j, hi, hj, hij⟩ | ⟨hi, hj⟩
  · simp only [hi, hj, Ident.name_eq_of_respells hij, htype]
  · rw [hi, hj, Ident.name_eq_of_respells hname]

/-! ### Enums -/

theorem constantNames_eq {enumName : String} {vs ws : List Variant}
    (h : vs.isEqv ws Variant.respells = true) :
    constantNames enumName vs = constantNames enumName ws := by
  unfold constantNames
  refine mapM_congr ((forall₂_of_isEqv h).imp fun v w hvw => ?_)
  simp only [Variant.respells, Bool.and_eq_true, beq_iff_eq] at hvw
  rw [Ident.name_eq_of_respells hvw.1, hvw.2]

theorem Attribute.isMarked_eq {marker : String} {as bs : List Attribute}
    (h : as.map Attribute.spelling = bs.map Attribute.spelling) :
    as.any (Attribute.isMarker marker) = bs.any (Attribute.isMarker marker) := by
  -- Markers, unlike the names of enums, are compared as they are spelt.
  have hmarker : Attribute.isMarker marker =
      (fun names => names.getLast?.any (· == marker.toList)) ∘ Attribute.spelling := by
    funext a
    rw [Function.comp_apply, Attribute.spelling, List.getLast?_map, Option.any_map]
    unfold Attribute.isMarker
    congr 1
    funext n
    rw [Bool.eq_iff_iff, beq_iff_eq, beq_iff_eq, String.toList_inj]
  rw [hmarker, ← List.any_map, ← List.any_map, h]

theorem Item.isMarked_eq {marker : String} {item item' : Item}
    (h : item.respells item' = true) : item.isMarked marker = item'.isMarked marker := by
  unfold Item.respells at h
  split at h
  · rfl
  · simp only [Bool.and_eq_true, beq_iff_eq] at h
    exact Attribute.isMarked_eq h.1
  · simp only [Bool.and_eq_true, beq_iff_eq] at h
    exact Attribute.isMarked_eq h.1.1
  · cases h

/-- Of two items that are the same, both are blocks, which are the same, or
none is. -/
theorem Item.block?_respell {item item' : Item} (h : item.respells item' = true) :
    (∃ b c, item.block? = some b ∧ item'.block? = some c ∧ b.respells c = true) ∨
      item.block? = none ∧ item'.block? = none := by
  unfold Item.respells at h
  split at h
  · exact Or.inr ⟨rfl, rfl⟩
  · rw [Bool.and_eq_true] at h
    obtain ⟨-, hform⟩ := h
    unfold Form.respells at hform
    split at hform
    · exact Or.inr ⟨rfl, rfl⟩
    · exact Or.inl ⟨_, _, rfl, rfl, hform⟩
    · exact Or.inr ⟨rfl, rfl⟩
    · exact Or.inr ⟨rfl, rfl⟩
    · cases hform
  · exact Or.inr ⟨rfl, rfl⟩
  · cases h

/-- The blocks that belong to an enum, when all blocks of the module follow
it. -/
theorem inherentBlocks_respell {n n' : Ident} {items items' : List Item}
    (h : List.Forall₂ (fun i i' => i.respells i' = true) items items')
    (hfollow : ∀ i ∈ items.zip items', ∀ b ∈ i.1.block?.toList.zip i.2.block?.toList,
      b.1.follows n n' b.2 = true) :
    List.Forall₂ (fun b c => b.respells c = true ∧ b.follows n n' c = true)
      (inherentBlocks items n) (inherentBlocks items' n') := by
  unfold inherentBlocks
  have hblocks : List.Forall₂ (fun b c => b.respells c = true ∧ b.follows n n' c = true)
      (items.filterMap Item.block?) (items'.filterMap Item.block?) := by
    refine List.rel_filterMap (fun i i' ⟨hi, hmem⟩ => ?_) (forall₂_and_mem_zip h)
    have hboth := hfollow (i, i') hmem
    rcases Item.block?_respell hi with ⟨b, c, hb, hc, hbc⟩ | ⟨hb, hc⟩
    · rw [hb, hc] at hboth ⊢
      exact .some ⟨hbc, hboth (b, c) List.mem_cons_self⟩
    · rw [hb, hc]
      exact .none
  exact List.rel_filter
    (fun b c hbc => Bool.eq_iff_iff.mp (Implementation.belongsTo_eq hbc.1 hbc.2)) hblocks

/-- All blocks of a module follow its marked enums. -/
theorem Item.follows_of_moduleFollows {marker : String} {items items' : List Item}
    (h : Item.moduleFollows marker items items' = true) {item item' : Item}
    (hmem : (item, item') ∈ items.zip items') (hmarked : item.isMarked marker = true)
    {n n' : Ident} (hn : item.enumName? = some n) (hn' : item'.enumName? = some n') :
    ∀ i ∈ items.zip items', ∀ b ∈ i.1.block?.toList.zip i.2.block?.toList,
      b.1.follows n n' b.2 = true := by
  intro i hi b hb
  simp only [Item.moduleFollows, List.all_eq_true, Bool.or_eq_true, Bool.not_eq_true'] at h
  rcases h (item, item') hmem with hunmarked | h
  · rw [hmarked] at hunmarked
    cases hunmarked
  · have hnames : (n, n') ∈ item.enumName?.toList.zip item'.enumName?.toList := by
      rw [hn, hn']
      exact List.mem_cons_self
    exact h (n, n') hnames i hi b hb

namespace Declaration

/-- An enum has the same summary when its blocks follow it. -/
theorem enumSummary_eq {d d' : Declaration} {n n' : Ident} {isGeneric : Bool}
    {vs ws : List Variant} (hscope : d.scope = d'.scope) (hn : n.respells n' = true)
    (hvariants : vs.isEqv ws Variant.respells = true)
    (hconstructors : List.Forall₂ (fun m k => m.respells k = true)
      (constructors n d.blocks) (constructors n' d'.blocks)) :
    d.enumSummary n isGeneric vs = d'.enumSummary n' isGeneric ws := by
  have hparameters : (constructors n d.blocks).mapM (Method.parameters n'.name) =
      (constructors n' d'.blocks).mapM (Method.parameters n'.name) :=
    mapM_congr (hconstructors.imp fun m k hmk => Method.parameters_eq hmk n'.name)
  unfold enumSummary
  rw [Ident.name_eq_of_respells hn, constantNames_eq hvariants, hparameters, hscope]

/-- The same for a declaration that is of an enum. -/
theorem summary?_eq {d d' : Declaration} {n n' : Ident} {isGeneric : Bool} {vs ws : List Variant}
    {attributes attributes' : List Attribute} {head head' : List Token}
    {body body' : Option (List Token)} (hscope : d.scope = d'.scope)
    (hn : n.respells n' = true) (hvariants : vs.isEqv ws Variant.respells = true)
    (hconstructors : List.Forall₂ (fun m k => m.respells k = true)
      (constructors n d.blocks) (constructors n' d'.blocks))
    (hitem : d.item = .leaf attributes (.enumeration n isGeneric vs) head body)
    (hitem' : d'.item = .leaf attributes' (.enumeration n' isGeneric ws) head' body') :
    d.summary? = d'.summary? := by
  rw [Declaration.summary?, Declaration.summary?, hitem, hitem', hscope]
  show (if d'.scope = "" then _ else some <$> d.enumSummary n isGeneric vs) = _
  rw [enumSummary_eq hscope hn hvariants hconstructors]

/-- Two items of modules that are the same have the same companion. -/
theorem companion?_among {marker scope : String} {items items' : List Item}
    (h : List.Forall₂ (fun i i' => i.respells i' = true) items items')
    (hfollow : Item.moduleFollows marker items items' = true) {item item' : Item}
    (hmem : (item, item') ∈ items.zip items') (hmarked : item.isMarked marker = true)
    (style : Companion.Style) :
    (among scope items item).companion? style = (among scope items' item').companion? style := by
  have hitem : item.respells item' = true := List.forall₂_zip h hmem
  have hsummary : (among scope items item).summary? = (among scope items' item').summary? := by
    -- Of what is no enum there is no summary, on either side.
    unfold Item.respells at hitem
    split at hitem
    next => rfl
    next attributes form head body attributes' form' head' body' =>
      rw [Bool.and_eq_true] at hitem
      obtain ⟨-, hform⟩ := hitem
      unfold Form.respells at hform
      split at hform
      next n isGeneric vs n' isGeneric' ws =>
        simp only [Bool.and_eq_true, beq_iff_eq] at hform
        obtain ⟨⟨hn, rfl⟩, hvariants⟩ := hform
        have hblocks := inherentBlocks_respell h
          (Item.follows_of_moduleFollows hfollow hmem hmarked rfl rfl)
        have hconstructors := constructors_respell hblocks fun b hb => (List.mem_filter.mp hb).2
        exact summary?_eq rfl hn hvariants hconstructors rfl rfl
      next => rfl
      next => rfl
      next => rfl
      next => cases hform
    next => rfl
    next => cases hitem
  unfold companion?
  rw [hsummary]

/-- The marked items of two modules that are the same have the same
companions. -/
theorem companions_marked {marker : String} (scope : String) {items items' : List Item}
    (h : List.Forall₂ (fun i i' => i.respells i' = true) items items')
    (hfollow : Item.moduleFollows marker items items' = true) (style : Companion.Style) :
    (marked scope marker items).map (companion? style) =
      (marked scope marker items').map (companion? style) := by
  unfold marked
  rw [List.map_map, List.map_map]
  exact map_filter_eq (forall₂_and_mem_zip h) (fun i i' hi => Item.isMarked_eq hi.1)
    fun i i' hi hmarked => companion?_among h hfollow hi.2 hmarked style

end Declaration

/-! ### Files -/

theorem Item.forall₂_of_allRespell :
    {items items' : List Item} → Item.allRespell items items' = true →
      List.Forall₂ (fun i i' => i.respells i' = true) items items'
  | [], [], _ => .nil
  | item :: rest, item' :: rest', h => by
    rw [Item.allRespell, Bool.and_eq_true] at h
    exact .cons h.1 (forall₂_of_allRespell h.2)

mutual

/-- What is found inside two items that are the same has the same companions:
the modules have the same path, however their names are spelt. -/
theorem Scan.companions_ofItem {marker : String} (scope : String) (around around' : List String)
    (style : Companion.Style) :
    (item item' : Item) → item.respells item' = true → item.typesFollow marker item' = true →
      (Scan.ofItem marker scope around item).declarations.map (·.companion? style) =
        (Scan.ofItem marker scope around' item').declarations.map (·.companion? style)
  | .verbatim ts, item', h, _ => by
    cases item' with
    | verbatim ts' => rfl
    | leaf => cases h
    | inlineModule => cases h
  | .leaf attributes form head body, item', h, _ => by
    cases item' with
    | verbatim => cases h
    | leaf => rw [Scan.declarations_ofItem_leaf, Scan.declarations_ofItem_leaf]
    | inlineModule => cases h
  | .inlineModule attributes name head items, item', h, hfollow => by
    cases item' with
    | verbatim => cases h
    | leaf => cases h
    | inlineModule attributes' name' head' items' =>
      rw [Item.respells, Bool.and_eq_true, Bool.and_eq_true] at h
      rw [Item.typesFollow, Bool.and_eq_true] at hfollow
      obtain ⟨⟨-, hname⟩, hitems⟩ := h
      -- The path of a module is made of names, so it is the same for both.
      have hhere := Declaration.companions_marked (Scan.inner scope name.name)
        (Item.forall₂_of_allRespell hitems) hfollow.1 style
      have hinside := companions_ofItems (Scan.inner scope name.name) (around ++ [name.name])
        (around' ++ [name.name]) style items items' hitems hfollow.2
      rw [Scan.ofItem, Scan.ofItem, ← Ident.name_eq_of_respells hname, Scan.append, Scan.append,
        List.map_append, List.map_append, hhere, hinside]

/-- The same for items one by one. -/
theorem Scan.companions_ofItems {marker : String} (scope : String) (around around' : List String)
    (style : Companion.Style) :
    (items items' : List Item) → Item.allRespell items items' = true →
      Item.allTypesFollow marker items items' = true →
      (Scan.ofItems marker scope around items).declarations.map (·.companion? style) =
        (Scan.ofItems marker scope around' items').declarations.map (·.companion? style)
  | [], items', h, _ => by
    cases items' with
    | nil => rfl
    | cons => cases h
  | item :: rest, items', h, hfollow => by
    cases items' with
    | nil => cases h
    | cons item' rest' =>
      rw [Item.allRespell, Bool.and_eq_true] at h
      rw [Item.allTypesFollow, Bool.and_eq_true] at hfollow
      rw [Scan.ofItems, Scan.ofItems, Scan.append, Scan.append, List.map_append, List.map_append,
        companions_ofItem scope around around' style item item' h.1 hfollow.1,
        companions_ofItems scope around around' style rest rest' h.2 hfollow.2]

end

/-- The companions of the marked enums of a source file, in the order of the
scan. -/
def companionsOf (marker scope : String) (style : Companion.Style) (text : String) :
    Option (List (Except Defect (Option Companion))) :=
  (SourceText.file? text).map fun items =>
    (Scan.file marker scope items).declarations.map (·.companion? style)

/-- Two source files that are the same but for raw spellings have the same
companions, in every module of which the types follow the enums. The names of
variants, of parameters and of modules may be spelt in any way. -/
theorem companionsOf_respelled {text text' marker scope : String} {items items' : List Item}
    (h : SourceText.file? text = some items) (h' : SourceText.file? text' = some items')
    (hrespell : Item.allRespell items items' = true)
    (hfollow : Item.moduleFollows marker items items' = true)
    (hinside : Item.allTypesFollow marker items items' = true) (style : Companion.Style) :
    companionsOf marker scope style text = companionsOf marker scope style text' := by
  have hitems := Item.forall₂_of_allRespell hrespell
  unfold companionsOf
  rw [h, h', Option.map_some, Option.map_some, Scan.file, Scan.file, Scan.append, Scan.append,
    List.map_append, List.map_append, Declaration.companions_marked scope hitems hfollow,
    Scan.companions_ofItems scope [] [] style items items' hrespell hinside]

/-- An enum in a module, with a constructor. -/
def plainText : String :=
  "mod m \x7b #[companion] enum A \x7b V \x7d
    impl A \x7b fn new(a: u8) -> A \x7b \x7d \x7d \x7d"

/-- The same with raw names throughout. -/
def rawText : String :=
  "mod r#m \x7b #[companion] enum r#A \x7b r#V \x7d
    impl r#A \x7b fn new(r#a: u8) -> r#A \x7b \x7d \x7d \x7d"

/-- With raw names throughout, the companions are the same. -/
theorem rawText_companions :
    ∃ items items',
      SourceText.file? plainText = some items ∧ SourceText.file? rawText = some items' ∧
      Item.allRespell items items' = true ∧
      Item.moduleFollows "companion" items items' = true ∧
      Item.allTypesFollow "companion" items items' = true ∧
      companionsOf "companion" "crate" {} plainText =
        companionsOf "companion" "crate" {} rawText := by
  have hboth : ((SourceText.file? plainText).bind fun items =>
      (SourceText.file? rawText).map fun items' =>
        (Item.allRespell items items', Item.moduleFollows "companion" items items',
          Item.allTypesFollow "companion" items items')) = some (true, true, true) := by
    decide +kernel
  obtain ⟨items, h, hboth⟩ := Option.bind_eq_some_iff.mp hboth
  obtain ⟨items', h', hboth⟩ := Option.map_eq_some_iff.mp hboth
  obtain ⟨hrespell, hboth⟩ := Prod.mk.inj hboth
  obtain ⟨hfollow, hinside⟩ := Prod.mk.inj hboth
  exact ⟨items, items', h, h', hrespell, hfollow, hinside,
    companionsOf_respelled h h' hrespell hfollow hinside {}⟩

/-- An enum with a constructor. -/
def plainSelfText : String :=
  "#[companion] enum A \x7b V \x7d impl A \x7b fn new(a: u8) -> A \x7b \x7d \x7d"

/-- The same, with the block under a raw name. -/
def rawSelfText : String :=
  "#[companion] enum A \x7b V \x7d impl r#A \x7b fn new(a: u8) -> A \x7b \x7d \x7d"

/-- The parameters in the companions of a module. -/
def parametersOf (items : List Item) : List (Option (List Parameter)) :=
  (Scan.file "companion" "crate" items).declarations.map fun d =>
    (d.companion? {}).toOption.join.map (·.summary.parameters)

/-- A block that is spelt raw is none of the enum, and the parameters of its
constructors are lost. -/
theorem rawSelf_loses_parameter :
    ∃ items items',
      SourceText.file? plainSelfText = some items ∧ SourceText.file? rawSelfText = some items' ∧
      Item.allRespell items items' = true ∧
      parametersOf items = [some [⟨"a", "u8"⟩]] ∧ parametersOf items' = [some []] := by
  have hboth : ((SourceText.file? plainSelfText).bind fun items =>
      (SourceText.file? rawSelfText).map fun items' =>
        (Item.allRespell items items', parametersOf items, parametersOf items')) =
      some (true, [some [⟨"a", "u8"⟩]], [some []]) := by
    decide +kernel
  obtain ⟨items, h, hboth⟩ := Option.bind_eq_some_iff.mp hboth
  obtain ⟨items', h', hboth⟩ := Option.map_eq_some_iff.mp hboth
  obtain ⟨hrespell, hparameters⟩ := Prod.mk.inj hboth
  obtain ⟨hplain, hraw⟩ := Prod.mk.inj hparameters
  exact ⟨items, items', h, h', hrespell, hplain, hraw⟩

end EnumCompanion
