import EnumCompanion.Proofs.Grammar.Expressions

/-!
# `EnumCompanion.Proofs.Grammar.Items`: the grammar is sound

The rules for signatures, for members of blocks and for items read clean
tokens and give clean tokens. An item without a form is kept as it was
written; that is clean because what a sound rule has read is.

With this the circle of rules is closed: `areSound_grammar` says that the
grammar is sound at any depth, and `type?_areClean` what comes of it for
types.
-/

set_option autoImplicit false

namespace EnumCompanion.Grammar

open EnumCompanion.Token
open Rule

variable {g : Rules} {start : List Token}

/-! ### Values with tokens -/

instance : Tidy FunctionParameter := ⟨fun _ => True⟩
instance : Tidy Method := ⟨fun _ => True⟩
instance : Tidy Variant := ⟨fun _ => True⟩
instance : Tidy Signature := ⟨fun s => AreClean s.tokens⟩
instance : Tidy TypeItem := ⟨fun t =>
  AreClean t.head ∧ AreClean t.bounds ∧ AreClean t.conditions ∧ AreClean t.definition ∧
    AreClean t.tail⟩

@[grind .]
theorem tidy_functionParameter (p : FunctionParameter) : tidy p := trivial

@[grind .]
theorem tidy_method (m : Method) : tidy m := trivial

@[grind =]
theorem tidy_signature (s : Signature) : tidy s = AreClean s.tokens := rfl

@[grind =]
theorem tidy_typeItem (t : TypeItem) : tidy t = (AreClean t.head ∧ AreClean t.bounds ∧
    AreClean t.conditions ∧ AreClean t.definition ∧ AreClean t.tail) := rfl

/-- A rule may fail on a condition and go on otherwise. -/
theorem Sound.unless {α : Type} [Tidy α] {p : Prop} [Decidable p] {r : Rule α}
    (h : Sound start r) :
    Sound start (if p then Alternative.failure >>= fun _ : PUnit => r else r) :=
  .ite (Sound.failure.bind fun _ _ => h) h

/-! ### Signatures -/

@[grind .]
theorem restriction_sound : Sound start restriction := by
  unfold restriction
  grind

@[grind .]
theorem visibility_sound : Sound start visibility := by
  unfold visibility
  grind

@[grind .]
theorem receiver_sound (h : AreSound g) : Sound start (receiver g) := by
  have hreference : Sound start (join [mark "&", optionalLifetime]) := by grind
  have hself : Sound start (join [optionalWord "mut", Rule.word "self"]) := by grind
  have htype : Sound start (join [mark ":", typePhrase g true]) := by grind
  unfold receiver
  refine .bind (by grind) fun reference hreference => .bind hself fun self hself => ?_
  grind

@[grind .]
theorem areClean_blank : AreClean (Token.word "_") := by
  have hread : anyIdent? ['_'] = some (.plain "_", []) := by rfl
  exact (areClean_ident_cons _ []).mpr ⟨(isLexed_of_anyIdent? hread).1, trivial⟩

@[grind .]
theorem typedParameter_sound (h : AreSound g) : Sound start (typedParameter g) := by
  have hcolon : AreClean (Token.operator ":") := areClean_operator (by grind)
  unfold typedParameter
  refine .whether (by grind) (.bind (h.pattern start) fun p hp => ?_)
  grind

/-- What cannot be read as a receiver is read again, from its beginning. -/
@[grind .]
theorem functionParameter_sound (h : AreSound g) : Sound start (functionParameter g) := by
  unfold functionParameter
  refine .whether (by grind) (.of_ends fun ts => ?_)
  split
  next self rest hself =>
    refine .set fun hts => ?_
    obtain ⟨hreads, htokens⟩ := receiver_sound h ts self rest hts (Reads.refl ts) hself
    exact ⟨hreads, .pure ⟨trivial, htokens⟩⟩
  next => exact (typedParameter_sound h).ends

@[grind .]
theorem functionParameters_sound (h : AreSound g) : Sound start (functionParameters g) := by
  refine .count (f := fun n => functionParametersWithin g n true) fun n => ?_
  generalize true = isFirst
  induction n generalizing isFirst with
  | zero => exact .failure
  | succ n ih =>
    unfold functionParametersWithin
    refine .whether (by grind) (.bind (by grind) fun attributes hattributes => ?_)
    refine .bind (by grind) fun ⟨parameter, ts⟩ ⟨_, hts⟩ => ?_
    refine .unless (.bind (by grind) fun comma hcomma => ?_)
    grind

@[grind .]
theorem safety_sound (allowSafe : Bool) : Sound start (safety allowSafe) := by
  unfold safety
  grind

@[grind .]
theorem qualifiers_sound (allowSafe : Bool) : Sound start (qualifiers allowSafe) := by
  unfold qualifiers
  grind

@[grind .]
theorem signature_sound (h : AreSound g) (allowSafe : Bool) :
    Sound start (signature g allowSafe) := by
  unfold signature
  refine .bind (by grind) fun first hfirst => .bind (by grind) fun i hi => ?_
  refine .bind (by grind) fun generics hgenerics => ?_
  refine .bind (inside_sound (by grind)) fun ⟨parameters, ts⟩ ⟨_, hts⟩ => ?_
  refine .bind (sees_sound _) fun hasResult _ => ?_
  extract_lets next
  have hnext : ∀ result, tidy result → Sound start (next result) := by
    intro ⟨arrow, type⟩ ⟨harrow, htype⟩
    refine .bind (by grind) fun conditions hconditions => .pure ?_
    cases type <;> grind
  clear_value next
  grind

@[grind .]
theorem functionBody_sound (h : AreSound g) : Sound start (functionBody g) := by
  unfold functionBody
  grind

/-! ### Types, with bounds or a definition -/

@[grind .]
theorem boundsTo_sound (h : AreSound g) (stop : Ahead) : Sound start (boundsTo g stop) := by
  unfold boundsTo
  grind

@[grind .]
theorem typeItem_sound (h : AreSound g) (before after : Bool) :
    Sound start (typeItem g before after) := by
  unfold typeItem
  refine .bind (by grind) fun first hfirst => .bind (by grind) fun i hi => ?_
  refine .bind (by grind) fun generics hgenerics => .bind (sees_sound _) fun isBounded _ => ?_
  -- Three times the rest of the rule follows a choice: the bounds, and the
  -- conditions before and behind the definition.
  extract_lets afterBounds
  have hbounds : ∀ bounds, AreClean bounds → Sound start (afterBounds bounds) := by
    intro bounds hbounds
    refine .bind (sees_sound _) fun hasBefore _ => ?_
    extract_lets afterEarly
    have hearly : ∀ early, AreClean early → Sound start (afterEarly early) := by
      intro early hearly
      refine .bind (by grind) fun definition hdefinition => ?_
      extract_lets afterLate
      have hlate : ∀ late, AreClean late → Sound start (afterLate late) := by
        intro late hlate
        refine .bind (by grind) fun tail htail => ?_
        grind
      exact .ite (.bind (by grind) hlate) (.bind (by grind) hlate)
    exact .ite (.bind (by grind) hearly) (.bind (by grind) hearly)
  refine .ite (.bind (by grind) fun _ _ => ?_) (.bind (by grind) hbounds)
  exact .bind (boundsTo_sound h _) hbounds

/-! ### Members -/

@[grind .]
theorem memberMacro_sound : Sound start memberMacro := by
  unfold memberMacro
  refine .bind (by grind) fun head hhead => .bind (sees_sound _) fun isBraced _ => ?_
  grind

@[grind .]
theorem memberConstant_sound (h : AreSound g) (needsValue : Bool) :
    Sound start (memberConstant g needsValue) := by
  unfold memberConstant
  refine .bind (by grind) fun head hhead => .bind (by grind) fun generics hgenerics => ?_
  refine .bind (by grind) fun type htype => .bind (by grind) fun value hvalue => ?_
  refine .bind (sees_sound _) fun hasConditions _ => .bind (by grind) fun _ _ => ?_
  grind

@[grind .]
theorem formed_sound {hasForm : Bool} {ts : List Token} (h : AreClean ts) :
    Sound start (formed start hasForm ts) := by
  unfold formed
  grind

@[grind .]
theorem implFunction_sound (h : AreSound g) {attributes head : List Token}
    (hattributes : AreClean attributes) (hhead : AreClean head) :
    Sound start (implFunction g start attributes head) := by
  unfold implFunction
  refine .bind (by grind) fun s hs => .whether (by grind) ?_
  refine .bind (by grind) fun ⟨inner, body⟩ ⟨hinner, hbody⟩ => ?_
  grind

@[grind .]
theorem implMember_sound (h : AreSound g) : Sound start (implMember g) := by
  unfold implMember
  refine .get fun ts => .bind (by grind) fun attributes hattributes => ?_
  refine .bind (by grind) fun visible hvisible => .bind (by grind) fun default hdefault => ?_
  extract_lets head
  have hhead : AreClean head := areClean_append hvisible hdefault
  clear_value head
  refine .whether (by grind) (.whether ?_ (.whether ?_ ?_))
  · refine .bind (by grind) fun ⟨constant, hasForm⟩ ⟨hconstant, _⟩ => ?_
    grind
  · refine .bind (by grind) fun t ht => ?_
    grind
  · grind

@[grind .]
theorem traitFunction_sound (h : AreSound g) : Sound start (traitFunction g) := by
  unfold traitFunction
  refine .bind (by grind) fun s hs => .whether (by grind) ?_
  refine .bind (by grind) fun ⟨inner, body⟩ ⟨hinner, hbody⟩ => ?_
  grind

@[grind .]
theorem traitMember_sound (h : AreSound g) : Sound start (traitMember g) := by
  unfold traitMember
  refine .get fun ts => .bind (by grind) fun attributes hattributes => ?_
  refine .bind (by grind) fun visible hvisible => .bind (by grind) fun default hdefault => ?_
  extract_lets isBare
  refine .whether (by grind) (.whether ?_ (.whether ?_ ?_))
  · refine .bind (by grind) fun ⟨constant, hasForm⟩ ⟨hconstant, _⟩ => ?_
    grind
  · refine .bind (by grind) fun t ht => ?_
    grind
  · grind

@[grind .]
theorem foreignFunction_sound (h : AreSound g) {head : List Token} (hhead : AreClean head) :
    Sound start (foreignFunction g start head) := by
  unfold foreignFunction
  refine .bind (sees_sound _) fun isSafe _ => .bind (by grind) fun s hs => ?_
  grind

@[grind .]
theorem foreignStatic_sound (h : AreSound g) {head : List Token} (hhead : AreClean head) :
    Sound start (foreignStatic g start head) := by
  unfold foreignStatic
  refine .bind (by grind) fun safety hsafety => .bind (by grind) fun ts hts => ?_
  grind

@[grind .]
theorem foreignMember_sound (h : AreSound g) : Sound start (foreignMember g) := by
  unfold foreignMember
  refine .get fun ts => .bind (by grind) fun attributes hattributes => ?_
  refine .bind (by grind) fun visible hvisible => ?_
  extract_lets head
  have hhead : AreClean head := areClean_append hattributes hvisible
  clear_value head
  refine .whether (by grind) (.whether (by grind) (.whether ?_ ?_))
  · refine .bind (by grind) fun t ht => ?_
    grind
  · grind

/-! ### Fields and variants -/

@[grind .]
theorem namedFields_sound (h : AreSound g) : Sound start (namedFields g) := by
  have hfields : ∀ n start, Sound start (namedFieldsWithin g n) := by
    intro n
    induction n with
    | zero => exact fun _ => .failure
    | succ n ih =>
      intro start
      unfold namedFieldsWithin
      refine enclosed_sound fun ts => commaSeparated_sound ?_
      refine .bind (by grind) fun head hhead => .bind (sees_sound _) fun isBlank _ => ?_
      refine .bind (by grind) fun label hlabel => .bind (sees_sound _) fun isNameless _ => ?_
      refine .ite (.get fun ts => .bind (by grind) fun _ _ => ?_) (by grind)
      refine .bind (ih ts) fun _ _ => ?_
      grind
  exact .get fun ts => hfields _ ts

@[grind .]
theorem positionalFields_sound (h : AreSound g) : Sound start (positionalFields g) := by
  unfold positionalFields
  grind

@[grind .]
theorem variant_sound (h : AreSound g) : Sound start (variant g) := by
  unfold variant
  refine .bind (by grind) fun attributes hattributes => .bind (by grind) fun _ _ => ?_
  refine .bind (by grind) fun i hi => ?_
  extract_lets next
  have hnext : ∀ fields, AreClean fields → Sound start (next fields) := by
    intro fields hfields
    exact .bind (by grind) fun value hvalue => .pure ⟨trivial, by grind⟩
  clear_value next
  grind

/-! ### Tokens of items -/

/-- Attributes that pass a test are clean if all are. -/
@[grind .]
theorem areClean_filter {attributes : List Attribute} (h : tidy attributes)
    (p : Attribute → Bool) : AreClean (Attribute.tokensOf (attributes.filter p)) :=
  areClean_tokensOf fun a ha => h a (List.mem_filter.mp ha).1

/-- An item is clean if its parts are. -/
theorem areClean_assemble {attributes : List Attribute} {head : List Token}
    {body : Option (List Token)} (hattributes : tidy attributes) (hhead : AreClean head)
    (hbody : tidy body) : AreClean (Item.assemble attributes head body) := by
  unfold Item.assemble
  cases body <;> grind

@[grind .]
theorem tidy_verbatim {ts : List Token} (h : AreClean ts) : tidy (Item.verbatim ts) :=
  h

@[grind .]
theorem tidy_leafItem {attributes : List Attribute} {form : Form} {head : List Token}
    {body : Option (List Token)} (hattributes : tidy attributes) (hhead : AreClean head)
    (hbody : tidy body) : tidy (Item.leaf attributes form head body) :=
  areClean_assemble hattributes hhead hbody

@[grind .]
theorem tidy_leaf {attributes : List Attribute} {form : Form} {head : List Token}
    (hattributes : tidy attributes) (hhead : AreClean head) :
    tidy (leaf attributes form head) :=
  areClean_assemble hattributes hhead tidy_none

theorem areClean_tokensOfItems {items : List Item} (h : tidy items) :
    AreClean (Item.tokensOf items) := by
  induction items with
  | nil => trivial
  | cons item items ih =>
    rw [tidy_cons] at h
    exact areClean_append h.1 (ih h.2)

@[grind .]
theorem tidy_inlineModule {attributes : List Attribute} {name : Ident} {head : List Token}
    {items : List Item} (hattributes : tidy attributes) (hhead : AreClean head)
    (hitems : tidy items) : tidy (Item.inlineModule attributes name head items) := by
  have hbody : tidy (some (Item.tokensOf items)) :=
    (tidy_some _).mpr (areClean_tokensOfItems hitems)
  rw [tidy_item, Item.tokens]
  exact areClean_assemble hattributes hhead hbody

@[grind .]
theorem tidy_attributes_append {as bs : List Attribute} (has : tidy as) (hbs : tidy bs) :
    tidy (as ++ bs) := by
  intro a ha
  exact (List.mem_append.mp ha).elim (has a) (hbs a)

/-! ### Kinds of items -/

section

variable {attributes : List Attribute} {visible : List Token}

@[grind .]
theorem functionItem_sound (h : AreSound g) (hattributes : tidy attributes)
    (hvisible : AreClean visible) :
    Sound start (functionItem g start attributes visible) := by
  unfold functionItem
  refine .bind (by grind) fun s hs => .whether (by grind) ?_
  refine .bind (by grind) fun ⟨inner, body⟩ ⟨hinner, hbody⟩ => ?_
  grind

@[grind .]
theorem linkedCrate_sound : Sound start linkedCrate := by
  have hrename : Sound start (join [Rule.word "as", spelt nameOrBlank]) := by grind
  unfold linkedCrate
  refine .whether (.bind (by grind) fun i hi => ?_) (.bind (by grind) fun i hi => ?_)
  · grind
  · grind

@[grind .]
theorem foreignBlock_sound (h : AreSound g) (hattributes : tidy attributes) :
    Sound start (foreignBlock g attributes) := by
  unfold foreignBlock
  refine .bind (by grind) fun head hhead => ?_
  refine .bind (by grind) fun ⟨inner, body⟩ ⟨hinner, hbody⟩ => ?_
  grind

@[grind .]
theorem importItem_sound (h : AreSound g) (hattributes : tidy attributes)
    (hvisible : AreClean visible) :
    Sound start (importItem g start attributes visible) := by
  unfold importItem
  refine .bind (by grind) fun head hhead => ?_
  refine .bind (h.imports start _) fun tree htree => .bind (by grind) fun tail htail => ?_
  cases tree <;> grind

@[grind .]
theorem staticItem_sound (h : AreSound g) (hattributes : tidy attributes)
    (hvisible : AreClean visible) :
    Sound start (staticItem g start attributes visible) := by
  unfold staticItem
  refine .bind (by grind) fun head hhead => .bind (by grind) fun i hi => ?_
  refine .whether (by grind) (.bind (by grind) fun type htype => .whether (by grind) ?_)
  refine .bind (by grind) fun value hvalue => ?_
  grind

@[grind .]
theorem constantItem_sound (h : AreSound g) (hattributes : tidy attributes)
    (hvisible : AreClean visible) :
    Sound start (constantItem g start attributes visible) := by
  unfold constantItem
  refine .look fun _ => .bind (by grind) fun ⟨ts, hasForm⟩ ⟨hts, _⟩ => ?_
  grind

@[grind .]
theorem traitBody_sound (h : AreSound g) : Sound start (traitBody g) := by
  unfold traitBody
  grind

@[grind .]
theorem restOfTrait_sound (h : AreSound g) (hattributes : tidy attributes) (i : Ident)
    {head : List Token} (hhead : AreClean head) :
    Sound start (restOfTrait g attributes i head) := by
  unfold restOfTrait
  extract_lets next
  have hnext : ∀ bounds, AreClean bounds → Sound start (next bounds) := by
    intro bounds hbounds
    refine .bind (by grind) fun conditions hconditions => ?_
    refine .bind (by grind) fun ⟨inner, body⟩ ⟨hinner, hbody⟩ => ?_
    grind
  clear_value next
  grind

@[grind .]
theorem traitItem_sound (h : AreSound g) (hattributes : tidy attributes)
    (hvisible : AreClean visible) : Sound start (traitItem g attributes visible) := by
  unfold traitItem
  refine .bind (by grind) fun first hfirst => .bind (by grind) fun i hi => ?_
  refine .bind (by grind) fun generics hgenerics => ?_
  extract_lets head
  have hhead : AreClean head := by grind
  clear_value head
  refine .bind (sees_sound _) fun isSum _ => .ite ?_ (by grind)
  refine .bind (by grind) fun eq heq => .bind (by grind) fun entries hentries => ?_
  refine .bind (by grind) fun tail htail => ?_
  grind

@[grind .]
theorem moduleItem_sound (h : AreSound g) (hattributes : tidy attributes)
    (hvisible : AreClean visible) : Sound start (moduleItem g attributes visible) := by
  unfold moduleItem
  refine .bind (by grind) fun first hfirst => ?_
  extract_lets next
  have hnext : ∀ i, tidy i → Sound start (next i) := by
    intro i hi
    refine .whether (by grind) ?_
    refine .bind (by grind) fun ⟨inner, items⟩ ⟨hinner, hitems⟩ => ?_
    grind
  clear_value next
  grind

@[grind .]
theorem typeAlias_sound (h : AreSound g) (hattributes : tidy attributes)
    (hvisible : AreClean visible) :
    Sound start (typeAlias g start attributes visible) := by
  unfold typeAlias
  refine .bind (by grind) fun t ht => ?_
  grind

@[grind .]
theorem structItem_sound (h : AreSound g) (hattributes : tidy attributes)
    (hvisible : AreClean visible) : Sound start (structItem g attributes visible) := by
  unfold structItem
  refine .bind (by grind) fun first hfirst => .bind (by grind) fun i hi => ?_
  refine .bind (by grind) fun generics hgenerics => .bind (sees_sound _) fun isConditioned _ => ?_
  refine .bind (by grind) fun conditions hconditions => ?_
  extract_lets next
  have hnext : ∀ fields, AreClean fields → Sound start (next fields) := by
    intro fields hfields
    grind
  clear_value next
  grind

@[grind .]
theorem unionItem_sound (h : AreSound g) (hattributes : tidy attributes)
    (hvisible : AreClean visible) : Sound start (unionItem g attributes visible) := by
  unfold unionItem
  refine .bind (by grind) fun first hfirst => .bind (by grind) fun i hi => ?_
  refine .bind (by grind) fun generics hgenerics => .bind (by grind) fun rest hrest => ?_
  grind

@[grind .]
theorem enumItem_sound (h : AreSound g) (hattributes : tidy attributes)
    (hvisible : AreClean visible) : Sound start (enumItem g attributes visible) := by
  unfold enumItem
  refine .bind (by grind) fun first hfirst => .bind (by grind) fun i hi => ?_
  refine .bind (by grind) fun generics hgenerics => ?_
  refine .bind (by grind) fun conditions hconditions => .bind (by grind) fun entries hentries => ?_
  have hvariants : AreClean (entries.flatMap fun e => e.value.2 ++ e.separator) :=
    areClean_flatMap fun e he => areClean_append (hentries e he).1.2 (hentries e he).2
  grind

@[grind .]
theorem constantImpl_sound : Sound start constantImpl := by
  unfold constantImpl
  grind

@[grind .]
theorem implItem_sound (h : AreSound g) (hattributes : tidy attributes) :
    Sound start (implItem g start attributes visible) := by
  unfold implItem
  refine .bind (by grind) fun head hhead => .bind (sees_sound _) fun hasGenerics _ => ?_
  extract_lets afterGenerics
  have hgenerics : ∀ generics, tidy generics → Sound start (afterGenerics generics) := by
    intro generics hgenerics
    refine .bind (by grind) fun constant hconstant => .bind (by grind) fun negation hnegation => ?_
    refine .bind (h.type start true) fun first hfirst => .bind (sees_sound _) fun isFor _ => ?_
    refine .unless (.bind (by grind) fun for_ hfor => ?_)
    extract_lets afterSelf
    have hself : ∀ self, tidy self → Sound start (afterSelf self) := by
      intro self hself
      refine .bind (by grind) fun conditions hconditions => ?_
      refine .bind (by grind) fun ⟨inner, members⟩ ⟨hinner, hmembers⟩ => ?_
      have hbody : AreClean (members.flatMap Prod.snd) :=
        areClean_flatMap fun m hm => (hmembers m hm).2
      refine .ite (by grind) (.pure (tidy_leafItem (by grind) ?_ (by grind)))
      grind
    exact .ite (.bind (h.type start true) hself) (.bind (.pure hfirst) hself)
  clear_value afterGenerics
  grind

@[grind .]
theorem macroDefinition_sound : Sound start (macroDefinition start) := by
  unfold macroDefinition
  grind

@[grind .]
theorem macroItem_sound (hattributes : tidy attributes) : Sound start (macroItem attributes) := by
  unfold macroItem
  refine .bind (by grind) fun head hhead => .bind (sees_sound _) fun isBraced _ => ?_
  refine .bind (by grind) fun arguments harguments => ?_
  grind

end

/-! ### Imports -/

theorem importGroup_sound (h : AreSound g) (allowGlobal : Bool) (n : Nat) :
    Sound start (importGroupWithin g allowGlobal n) := by
  induction n with
  | zero => exact .failure
  | succ n ih =>
    unfold importGroupWithin
    refine .whether (by grind) (.bind (sees_sound _) fun isGlobal _ => ?_)
    extract_lets next
    have hnext : ∀ colons, AreClean colons → Sound start (next colons) := by
      intro _ _
      refine .bind (h.imports start _) fun tree htree => .bind (by grind) fun comma hcomma => ?_
      refine .bind ih fun ⟨more, rest⟩ ⟨_, hrest⟩ => .pure ⟨trivial, ?_⟩
      cases tree <;> grind
    clear_value next
    grind

@[grind .]
theorem rename_sound : Sound start rename := by
  unfold rename
  grind

theorem imports_sound (h : AreSound g) (allowGlobal : Bool) :
    Sound start (imports g allowGlobal) := by
  unfold imports
  refine .whether ?_ (.whether (by grind) ?_)
  · refine .bind (by grind) fun i hi => .whether ?_ (by grind)
    refine .bind (by grind) fun colons hcolons => .bind (h.imports start false) fun tree htree => ?_
    cases tree <;> grind
  · refine .bind (inside_sound fun ts => ?_) fun ⟨isGlobal, trees⟩ ⟨_, htrees⟩ => ?_
    · exact .count (f := fun n => importGroupWithin g allowGlobal n)
        (importGroup_sound h allowGlobal)
    · grind

/-! ### Items -/

theorem itemBody_sound (h : AreSound g) {attributes : List Attribute} {visible : List Token}
    (hattributes : tidy attributes) (hvisible : AreClean visible) :
    Sound start (itemBody g start attributes visible) := by
  unfold itemBody
  iterate 7 refine .whether (by grind) ?_
  iterate 7 refine .whether (by grind) ?_
  grind

/-- An item is read from clean tokens and has clean tokens. -/
theorem item_sound (h : AreSound g) : Sound start (item g) := by
  unfold item
  refine .get fun ts => .bind (by grind) fun attributes hattributes => ?_
  refine .bind (by grind) fun visible hvisible => itemBody_sound h hattributes hvisible

/-! ### The grammar -/

/-- The rules of the grammar are sound at any depth. -/
theorem areSound_grammar (n : Nat) : AreSound (grammar n) := by
  induction n with
  | zero => exact areSound_none
  | succ n ih =>
    exact {
      type := fun _ allowPlus => type_sound ih allowPlus
      bound := fun _ allowCaptures allowConstant => bound_sound ih allowCaptures allowConstant
      expression := fun _ allowStruct => expression_sound ih allowStruct
      operand := fun _ allowStruct => operand_proper ih allowStruct
      climb := fun _ allowStruct left floor hleft => climb_sound ih allowStruct floor hleft
      bounded := fun _ => bounded_sound ih
      pattern := fun _ => pattern_sound ih
      statements := fun _ => statements_sound ih
      item := fun _ => item_sound ih
      imports := fun _ allowGlobal => imports_sound ih allowGlobal }

/-- A type that is read from clean tokens has clean tokens. -/
theorem areClean_of_type? {ts : List Token} {t : TypeTree} (hts : AreClean ts)
    (h : type? ts = some t) : AreClean t.tokens := by
  unfold type? Rule.whole? at h
  split at h
  next t' hrun =>
    obtain rfl := Option.some.inj h
    exact ((areSound_grammar _).type ts true ts _ [] hts (Reads.refl ts) hrun).2.1
  next => cases h

end EnumCompanion.Grammar
