import EnumCompanion.Proofs.Declaration.Summary
import Mathlib.Logic.Relation

/-!
# `EnumCompanion.Proofs.Declaration.Exact`: what a declaration comes to

Whether a declaration has a summary, and which defect is reported if it has
none, depends on tests that are made in a fixed order. The first test that
fails decides, and within a list the first thing that fails it.

* `mapM_of_first`: the error of a step that is taken for each item of a list.
* `Declaration.Extracts`: what a declaration comes to, case by case.
* `Edit`, `AddsTrait`: changes of the `impl` blocks of a module that leave the
  constructors as they are.
* `Method.isConstructor_iff`: which functions are constructors.
* `Declaration.summary?_exact`: a declaration comes to just what the cases
  say, and to the same after any number of changes, made or taken back.
-/

set_option autoImplicit false

namespace EnumCompanion

/-! ### The first that fails -/

/-- Either all items of a list have a property, or there is a first one without
it. -/
theorem forall_or_first {α : Type} (P : α → Prop) (as : List α) :
    (∀ a ∈ as, P a) ∨
      ∃ before a after, as = before ++ a :: after ∧ (∀ b ∈ before, P b) ∧ ¬P a := by
  induction as with
  | nil => exact .inl (List.forall_mem_nil _)
  | cons a rest ih =>
    by_cases ha : P a
    · rcases ih with hall | ⟨before, b, after, hsplit, hbefore, hb⟩
      · exact .inl (List.forall_mem_cons.mpr ⟨ha, hall⟩)
      · exact .inr ⟨a :: before, b, after, congrArg (a :: ·) hsplit,
          List.forall_mem_cons.mpr ⟨ha, hbefore⟩, hb⟩
    · exact .inr ⟨[], a, rest, rfl, List.forall_mem_nil _, ha⟩

/-- A step that is taken for each item of a list fails as it does for the first
item for which it fails. -/
theorem mapM_of_first {ε α β : Type} {f : α → Except ε β} {before after : List α} {a : α} {e : ε}
    (hbefore : ∀ b ∈ before, ∃ c, f b = .ok c) (ha : f a = .error e) :
    (before ++ a :: after).mapM f = .error e := by
  induction before with
  | nil =>
    rw [List.nil_append, List.mapM_cons, ha]
    rfl
  | cons b rest ih =>
    obtain ⟨⟨c, hc⟩, hrest⟩ := List.forall_mem_cons.mp hbefore
    rw [List.cons_append, List.mapM_cons, hc, ih hrest]
    rfl

/-! ### Variants and parameters -/

/-- The first variant that carries fields is reported. -/
theorem constantNames_of_first {enumName : String} {units more : List Variant} {v : Variant}
    (hunits : ∀ u ∈ units, u.isUnit = true) (hv : v.isUnit = false) :
    constantNames enumName (units ++ v :: more) =
      .error (.nonUnitVariant enumName v.name.name) := by
  refine mapM_of_first (fun u hu => ⟨u.name.name, ?_⟩) ?_
  · rw [if_pos (hunits u hu)]
  · rw [if_neg (by rw [hv]; exact Bool.false_ne_true)]

/-- A constructor with a pattern for a parameter is reported, whichever
parameter it is. -/
theorem Method.parameters_of_not_isPlain {enumName : String} {m : Method} (h : ¬m.IsPlain) :
    m.parameters enumName = .error (.patternParameter enumName m.name.name) := by
  rcases forall_or_first (fun a : Argument => a.name.isSome = true) m.arguments with
    hall | ⟨before, a, after, hsplit, hbefore, ha⟩
  · exact absurd hall h
  · unfold Method.parameters
    rw [hsplit]
    refine mapM_of_first (fun b hb => ?_) ?_
    · obtain ⟨name, hname⟩ := Option.isSome_iff_exists.mp (hbefore b hb)
      exact ⟨⟨name.name, Token.spelled b.type⟩, by rw [hname]⟩
    · rw [Option.not_isSome_iff_eq_none.mp ha]

/-- The first constructor with such a parameter is reported. -/
theorem mapM_parameters_of_first {enumName : String} {plain more : List Method} {m : Method}
    (hplain : ∀ f ∈ plain, f.IsPlain) (hm : ¬m.IsPlain) :
    (plain ++ m :: more).mapM (Method.parameters enumName) =
      .error (.patternParameter enumName m.name.name) :=
  mapM_of_first
    (fun f hf => ⟨f.plainParameters, Method.parameters_eq_ok_iff.mpr ⟨hplain f hf, rfl⟩⟩)
    (Method.parameters_of_not_isPlain hm)

/-! ### The cases -/

namespace Declaration

/-- The declaration is of an enum with the given name and variants. -/
def DeclaresEnum (d : Declaration) (name : Ident) (isGeneric : Bool)
    (variants : List Variant) : Prop :=
  ∃ attributes head body, d.item = .leaf attributes (.enumeration name isGeneric variants) head body

/-- What a declaration comes to. -/
inductive Extracts (d : Declaration) : Except Defect (Option Summary) → Prop where
  /-- Its module has no path. -/
  | emptyScope (hscope : d.scope = "") : Extracts d (.error .emptyNamespace)
  /-- It is no enum. -/
  | noEnum (hscope : d.scope ≠ "")
      (hitem : ∀ name isGeneric variants, ¬d.DeclaresEnum name isGeneric variants) :
      Extracts d (.ok none)
  /-- It has generic parameters. -/
  | generic {name : Ident} {variants : List Variant} (hscope : d.scope ≠ "")
      (hitem : d.DeclaresEnum name true variants) : Extracts d (.error (.genericType name.name))
  /-- A variant carries fields, and those in front of it do not. -/
  | fields {name : Ident} {units : List Variant} {v : Variant} {more : List Variant}
      (hscope : d.scope ≠ "") (hitem : d.DeclaresEnum name false (units ++ v :: more))
      (hunits : ∀ u ∈ units, u.isUnit = true) (hv : v.isUnit = false) :
      Extracts d (.error (.nonUnitVariant name.name v.name.name))
  /-- A constructor takes something by a pattern, and those in front of it do
  not. -/
  | pattern {name : Ident} {variants : List Variant} {plain : List Method} {m : Method}
      {more : List Method} (hscope : d.scope ≠ "") (hitem : d.DeclaresEnum name false variants)
      (hunits : ∀ v ∈ variants, v.isUnit = true)
      (hconstructors : constructors name d.blocks = plain ++ m :: more)
      (hplain : ∀ f ∈ plain, f.IsPlain) (hm : ¬m.IsPlain) :
      Extracts d (.error (.patternParameter name.name m.name.name))
  /-- It is fit for a summary. -/
  | summary {name : Ident} {variants : List Variant} (hscope : d.scope ≠ "")
      (hitem : d.DeclaresEnum name false variants) (hunits : ∀ v ∈ variants, v.isUnit = true)
      (hplain : ∀ f ∈ constructors name d.blocks, f.IsPlain) :
      Extracts d (.ok (some (d.plainSummary name variants)))

/-- The summary of an enum in a module with a path. -/
theorem DeclaresEnum.summary?_eq {d : Declaration} {name : Ident} {isGeneric : Bool}
    {variants : List Variant} (h : d.DeclaresEnum name isGeneric variants) (hscope : d.scope ≠ "") :
    d.summary? = some <$> d.enumSummary name isGeneric variants := by
  obtain ⟨attributes, head, body, hitem⟩ := h
  unfold summary?
  rw [if_neg hscope, hitem]

/-- A declaration comes to nothing else than its case says. -/
theorem Extracts.eq {d : Declaration} {r : Except Defect (Option Summary)} (h : d.Extracts r) :
    d.summary? = r := by
  cases h with
  | emptyScope hscope =>
    unfold summary?
    rw [if_pos hscope]
  | noEnum hscope hitem =>
    unfold summary?
    rw [if_neg hscope]
    split
    · next attributes name isGeneric variants head body heq =>
      exact absurd ⟨attributes, head, body, heq⟩ (hitem name isGeneric variants)
    · rfl
  | generic hscope hitem =>
    rw [hitem.summary?_eq hscope]
    rfl
  | fields hscope hitem hunits hv =>
    rw [hitem.summary?_eq hscope, enumSummary, constantNames_of_first hunits hv]
    rfl
  | pattern hscope hitem hunits hconstructors hplain hm =>
    rw [hitem.summary?_eq hscope, enumSummary, constantNames_eq_ok_iff.mpr ⟨hunits, rfl⟩,
      hconstructors, mapM_parameters_of_first hplain hm]
    rfl
  | summary hscope hitem hunits hplain =>
    rw [hitem.summary?_eq hscope, enumSummary_eq_ok_iff.mpr ⟨rfl, hunits, hplain, rfl⟩]
    rfl

/-- One of the cases is there for every declaration. -/
theorem extracts_summary? (d : Declaration) : d.Extracts d.summary? := by
  -- It is enough to find a case, since no other can apply.
  suffices h : ∃ r, d.Extracts r by
    obtain ⟨r, hr⟩ := h
    rw [hr.eq]
    exact hr
  by_cases hscope : d.scope = ""
  · exact ⟨_, .emptyScope hscope⟩
  by_cases hitem : ∃ name isGeneric variants, d.DeclaresEnum name isGeneric variants
  · obtain ⟨name, isGeneric, variants, hitem⟩ := hitem
    cases isGeneric with
    | true => exact ⟨_, .generic hscope hitem⟩
    | false =>
      rcases forall_or_first (fun v : Variant => v.isUnit = true) variants with
        hunits | ⟨units, v, more, rfl, hunits, hv⟩
      · rcases forall_or_first Method.IsPlain (constructors name d.blocks) with
          hplain | ⟨plain, m, more, hsplit, hplain, hm⟩
        · exact ⟨_, .summary hscope hitem hunits hplain⟩
        · exact ⟨_, .pattern hscope hitem hunits hsplit hplain hm⟩
      · exact ⟨_, .fields hscope hitem hunits (Bool.eq_false_iff.mpr hv)⟩
  · refine ⟨_, .noEnum hscope fun name isGeneric variants h => hitem ⟨name, isGeneric, variants, h⟩⟩

end Declaration

/-! ### Changes that do not matter -/

/-- A member of an `impl` block: the function, if it is one with a body, and
its tokens. Constants, types, macros and functions without a body are
members of the other kind. -/
abbrev Member := Option Method × List Token

/-- The block with the given members. -/
def Implementation.ofMembers (isInherent : Bool) (self : Option Path) (members : List Member) :
    Implementation :=
  ⟨isInherent, self, members.filterMap Prod.fst⟩

/-- Blocks change by a member that is no constructor of the name, or by a block
that falls into two. -/
inductive Edit (name : Ident) : List Implementation → List Implementation → Prop where
  | member (before after : List Implementation) (isInherent : Bool) (self : Option Path)
      (front back : List Member) (m : Member) (hm : ∀ f ∈ m.1, f.isConstructor name = false) :
      Edit name (before ++ .ofMembers isInherent self (front ++ back) :: after)
        (before ++ .ofMembers isInherent self (front ++ m :: back) :: after)
  | split (before after : List Implementation) (isInherent : Bool) (self : Option Path)
      (front back : List Member) :
      Edit name (before ++ .ofMembers isInherent self (front ++ back) :: after)
        (before ++ .ofMembers isInherent self front :: .ofMembers isInherent self back :: after)

/-- Blocks change by a block that implements a trait. -/
def AddsTrait (bs bs' : List Implementation) : Prop :=
  ∃ before b after, b.isInherent = false ∧ bs = before ++ after ∧ bs' = before ++ b :: after

/-- What makes a function a constructor of an enum. -/
theorem Method.isConstructor_iff {name : Ident} {m : Method} :
    m.isConstructor name = true ↔ m.hasReceiver = false ∧
      ∃ path segment, m.result = some path ∧ path.last? = some segment ∧
        segment.arguments.isEmpty = true ∧ (segment.name.text = "Self" ∨ segment.name = name) := by
  unfold isConstructor
  rw [Bool.and_eq_true, Bool.not_eq_true', Option.any_eq_true]
  refine and_congr_right fun _ => ?_
  constructor
  · rintro ⟨segment, hlast, hsegment⟩
    obtain ⟨path, hresult, hpath⟩ := Option.bind_eq_some_iff.mp hlast
    simp only [Bool.and_eq_true, Bool.or_eq_true, beq_iff_eq] at hsegment
    exact ⟨path, segment, hresult, hpath, hsegment⟩
  · rintro ⟨path, segment, hresult, hpath, hsegment⟩
    refine ⟨segment, Option.bind_eq_some_iff.mpr ⟨path, hresult, hpath⟩, ?_⟩
    simpa only [Bool.and_eq_true, Bool.or_eq_true, beq_iff_eq] using hsegment

/-- Constructors come block by block. -/
theorem constructors_append (name : Ident) (bs bs' : List Implementation) :
    constructors name (bs ++ bs') = constructors name bs ++ constructors name bs' := by
  simp [constructors]

theorem constructors_cons (name : Ident) (b : Implementation) (bs : List Implementation) :
    constructors name (b :: bs) = constructors name [b] ++ constructors name bs :=
  constructors_append name [b] bs

/-- Within a block they come member by member. -/
theorem constructors_ofMembers_append (name : Ident) (isInherent : Bool) (self : Option Path)
    (front back : List Member) :
    constructors name [.ofMembers isInherent self (front ++ back)] =
      constructors name [.ofMembers isInherent self front] ++
        constructors name [.ofMembers isInherent self back] := by
  simp [constructors, Implementation.ofMembers]

/-- A member that is no constructor adds none. -/
theorem constructors_ofMembers_cons {name : Ident} {m : Member}
    (hm : ∀ f ∈ m.1, f.isConstructor name = false) (isInherent : Bool) (self : Option Path)
    (back : List Member) :
    constructors name [.ofMembers isInherent self (m :: back)] =
      constructors name [.ofMembers isInherent self back] := by
  obtain ⟨f?, ts⟩ := m
  cases f? with
  | none => rfl
  | some f =>
    have hf : f.isConstructor name = false := hm f rfl
    simp [constructors, Implementation.ofMembers, hf]

/-- A member that is no constructor, at any point of a block, adds none. -/
theorem constructors_insert {name : Ident} {m : Member}
    (hm : ∀ f ∈ m.1, f.isConstructor name = false) (isInherent : Bool) (self : Option Path)
    (front back : List Member) :
    constructors name [.ofMembers isInherent self (front ++ m :: back)] =
      constructors name [.ofMembers isInherent self (front ++ back)] := by
  rw [constructors_ofMembers_append, constructors_ofMembers_cons hm,
    ← constructors_ofMembers_append]

/-- A change leaves the constructors as they are, also among the blocks that
belong to the name. -/
theorem Edit.constructors_eq {name : Ident} {bs bs' : List Implementation} (h : Edit name bs bs') :
    constructors name bs = constructors name bs' ∧
      constructors name (bs.filter (·.belongsTo name)) =
        constructors name (bs'.filter (·.belongsTo name)) := by
  cases h with
  | member before after isInherent self front back m hm =>
    -- Whether a block belongs to a name does not depend on its members.
    have hbelongs : (Implementation.ofMembers isInherent self (front ++ m :: back)).belongsTo name =
        (Implementation.ofMembers isInherent self (front ++ back)).belongsTo name := rfl
    have hinsert := constructors_insert hm isInherent self front back
    constructor
    · rw [constructors_append, constructors_append, constructors_cons, ← hinsert,
        ← constructors_cons]
    · rw [List.filter_append, List.filter_append, List.filter_cons, List.filter_cons, hbelongs]
      split
      · rw [constructors_append, constructors_append, constructors_cons, ← hinsert,
          ← constructors_cons]
      · rfl
  | split before after isInherent self front back =>
    have hbelongs : ∀ members, (Implementation.ofMembers isInherent self members).belongsTo name =
        (Implementation.ofMembers isInherent self (front ++ back)).belongsTo name := fun _ => rfl
    have hsplit : ∀ rest,
        constructors name (.ofMembers isInherent self (front ++ back) :: rest) =
          constructors name
            (.ofMembers isInherent self front :: .ofMembers isInherent self back :: rest) := by
      intro rest
      rw [constructors_cons, constructors_ofMembers_append, constructors_cons name _ (_ :: rest),
        constructors_cons name _ rest, List.append_assoc]
    constructor
    · rw [constructors_append, constructors_append, hsplit]
    · rw [List.filter_append, List.filter_append, List.filter_cons, List.filter_cons,
        List.filter_cons, hbelongs front, hbelongs back]
      split
      · rw [constructors_append, constructors_append, hsplit]
      · rfl

/-- A block that implements a trait belongs to no name. -/
theorem AddsTrait.filter_eq {bs bs' : List Implementation} (h : AddsTrait bs bs') (name : Ident) :
    bs.filter (·.belongsTo name) = bs'.filter (·.belongsTo name) := by
  obtain ⟨before, b, after, hb, rfl, rfl⟩ := h
  have hnot : b.belongsTo name = false := by
    unfold Implementation.belongsTo
    rw [hb, Bool.false_and]
  rw [List.filter_append, List.filter_append, List.filter_cons, hnot]
  rfl

/-- What one change leaves as it is, any number of changes does, made or taken
back. -/
theorem eq_of_eqvGen {α β : Type} {r : α → α → Prop} {f : α → β} (hf : ∀ a b, r a b → f a = f b)
    {a b : α} (h : Relation.EqvGen r a b) : f a = f b :=
  congrArg (Quot.lift f hf) (Quot.eqvGen_sound h)

namespace Declaration

/-- A summary depends on the blocks only by their constructors. -/
theorem summary?_congr {d : Declaration} {name : Ident} (hname : d.item.name? = some name)
    {blocks : List Implementation} (h : constructors name d.blocks = constructors name blocks) :
    summary? { d with blocks := blocks } = d.summary? := by
  have henum : ∀ isGeneric variants,
      enumSummary { d with blocks := blocks } name isGeneric variants =
        d.enumSummary name isGeneric variants := by
    intro isGeneric variants
    unfold enumSummary
    rw [h]
  unfold summary?
  split
  · rfl
  · -- Only an enum looks at its blocks, and it has the name that they are asked for.
    split
    · next attributes other isGeneric variants head body hitem =>
      have hitem' : d.item = .leaf attributes (.enumeration other isGeneric variants) head body :=
        hitem
      obtain rfl : other = name := by
        rw [hitem'] at hname
        exact Option.some.inj hname
      rw [henum, hitem']
    · rfl

/-- A declaration comes to exactly what its case says. It comes to the same when
its blocks are changed by members that are no constructors, or are taken
apart or put together; and in its module also when blocks that implement
traits come or go. A constructor is a function without a receiver whose
result is `Self` or the name, without arguments. -/
theorem summary?_exact (d : Declaration) :
    (∀ r, d.summary? = r ↔ d.Extracts r) ∧
      (∀ name blocks, d.item.name? = some name → Relation.EqvGen (Edit name) d.blocks blocks →
        summary? { d with blocks := blocks } = d.summary?) ∧
      (∀ name items items', d.item.name? = some name →
        Relation.EqvGen (fun bs bs' => Edit name bs bs' ∨ AddsTrait bs bs')
          (items.filterMap Item.block?) (items'.filterMap Item.block?) →
        (among d.scope items' d.item).summary? = (among d.scope items d.item).summary?) ∧
      ∀ (name : Ident) (m : Method), m.isConstructor name = true ↔ m.hasReceiver = false ∧
        ∃ path segment, m.result = some path ∧ path.last? = some segment ∧
          segment.arguments.isEmpty = true ∧
          (segment.name.text = "Self" ∨ segment.name = name) := by
  refine ⟨fun r => ⟨fun h => h ▸ d.extracts_summary?, Extracts.eq⟩, ?_, ?_,
    fun name m => Method.isConstructor_iff⟩
  · intro name blocks hname hchange
    exact summary?_congr hname
      (eq_of_eqvGen (fun bs bs' hedit => hedit.constructors_eq.1) hchange)
  · intro name items items' hname hchange
    have hsame : constructors name (inherentBlocks items name) =
        constructors name (inherentBlocks items' name) := by
      refine eq_of_eqvGen (f := fun bs => constructors name (bs.filter (·.belongsTo name))) ?_
        hchange
      rintro bs bs' (hedit | htrait)
      · exact hedit.constructors_eq.2
      · exact congrArg (constructors name) (htrait.filter_eq name)
    have hamong : ∀ level, among d.scope level d.item =
        ⟨d.scope, d.item, inherentBlocks level name⟩ := by
      intro level
      unfold among
      rw [hname]
      rfl
    rw [hamong items, hamong items']
    exact summary?_congr (d := ⟨d.scope, d.item, inherentBlocks items name⟩) hname hsame

/-- An enum, and a constructor of it with one parameter. -/
def switch (blocks : List Implementation) : Declaration where
  scope := "crate"
  item := .leaf [] (.enumeration (.plain "Switch") false [⟨.plain "On", true⟩]) [] none
  blocks := blocks

/-- The `impl` block of the enum with the given members. -/
def switchBlock (members : List Member) : Implementation :=
  .ofMembers true (some ⟨false, [⟨.plain "Switch", .none⟩], []⟩) members

/-- A constructor of the enum. -/
def switchFrom : Member :=
  (some ⟨.plain "from_code", false,
    [⟨some (.plain "code"), Token.word "u8"⟩], some ⟨false, [⟨.plain "Self", .none⟩], []⟩⟩, [])

/-- A method that is no constructor. -/
def switchCode : Member :=
  (some ⟨.plain "code", true, [], some ⟨false, [⟨.plain "u8", .none⟩], []⟩⟩, [])

/-- The summary of the enum is the same with the method and a constant in front
of the constructor, each of the two in a block of its own. -/
theorem switch_summary :
    (switch [switchBlock [switchFrom]]).summary? =
        .ok (some ⟨"crate", "Switch", ["On"], [⟨"code", "u8"⟩]⟩) ∧
      (switch [switchBlock [switchCode], switchBlock [(none, []), switchFrom]]).summary? =
        .ok (some ⟨"crate", "Switch", ["On"], [⟨"code", "u8"⟩]⟩) := by
  have hplain : (switch [switchBlock [switchFrom]]).summary? =
      .ok (some ⟨"crate", "Switch", ["On"], [⟨"code", "u8"⟩]⟩) := by rfl
  refine ⟨hplain, Eq.trans ?_ hplain⟩
  have hconstant : Edit (.plain "Switch") [switchBlock [switchFrom]]
      [switchBlock [(none, []), switchFrom]] :=
    .member [] [] _ _ [] [switchFrom] (none, []) nofun
  have hmethod : Edit (.plain "Switch") [switchBlock [(none, []), switchFrom]]
      [switchBlock [switchCode, (none, []), switchFrom]] :=
    .member [] [] _ _ [] [(none, []), switchFrom] switchCode (by rintro f ⟨⟩; rfl)
  have hsplit : Edit (.plain "Switch") [switchBlock [switchCode, (none, []), switchFrom]]
      [switchBlock [switchCode], switchBlock [(none, []), switchFrom]] :=
    .split [] [] _ _ [switchCode] [(none, []), switchFrom]
  exact (summary?_exact (switch [switchBlock [switchFrom]])).2.1 (.plain "Switch") _ rfl
    (((Relation.EqvGen.rel _ _ hconstant).trans _ _ _ (.rel _ _ hmethod)).trans _ _ _
      (.rel _ _ hsplit))

end Declaration

end EnumCompanion
