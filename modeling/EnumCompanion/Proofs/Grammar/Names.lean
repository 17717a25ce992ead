import EnumCompanion.Proofs.Grammar.Written
import EnumCompanion.Proofs.Token.Lexed
import EnumCompanion.SourceText

/-!
# `EnumCompanion.Proofs.Grammar.Names`: the names in items are names

The grammar reads a name where the lexer has found one, and it has to be
one that can be declared. So the names of an item are such names, and what
stands for the type of an argument is the tokens of a type.

Most kinds of items have no names of interest; `Yields` settles those
without looking at what they read.

* `Ident.IsDeclared`: names that can be declared.
* `Item.IsNamed`: all names of enums, variants and inline modules are such
  names, and the arguments of functions in `impl` blocks have types.
* `isNamed_of_file?`: this holds of all items of a source file.
-/

set_option autoImplicit false

namespace EnumCompanion

open EnumCompanion.Token

/-! ### Names that can be declared -/

/-- An identifier that the lexer reads and that can be declared: it is not the
underscore, and no keyword without a raw form. -/
structure Ident.IsDeclared (i : Ident) : Prop where
  lexed : i.IsLexed
  underscore : i.name ≠ "_"
  path : isPathKeyword i.name = false

/-- What is no name for the lexer's sake is no name; what is spelt raw is one
from the start. -/
theorem Ident.IsLexed.isDeclared {i : Ident} (h : i.IsLexed) (hname : i.isName = true) :
    i.IsDeclared := by
  unfold Ident.isName at hname
  cases hraw : i.raw with
  | true => exact ⟨h, (h.2 hraw).1, (h.2 hraw).2⟩
  | false =>
    -- A plain spelling is a name if it is no keyword of any kind.
    rw [hraw] at hname
    simp only [isReserved, Bool.false_or, Bool.not_eq_true', Bool.or_eq_false_iff,
      beq_eq_false_iff_ne] at hname
    exact ⟨h, hname.1.1, hname.1.2⟩

/-! ### Names of items -/

/-- An argument with a name that the lexer reads, if it has one, and with a
type. -/
structure Argument.IsNamed (a : Argument) : Prop where
  name : ∀ i ∈ a.name, i.IsLexed
  clean : AreClean a.type
  written : a.type ≠ []

/-- All arguments of a function have names and types. -/
def Method.IsNamed (m : Method) : Prop :=
  ∀ a ∈ m.arguments, a.IsNamed

/-- The names of an enum and of its variants can be declared, and those of the
functions of an `impl` block have names and types for their arguments. -/
def Form.IsNamed : Form → Prop
  | .enumeration name _ variants => name.IsDeclared ∧ ∀ v ∈ variants, v.name.IsDeclared
  | .implementation block => ∀ m ∈ block.methods, m.IsNamed
  | .moduleFile _ => True
  | .plain _ _ => True

mutual

/-- The names of an item, and of the items in it, can be declared. -/
def Item.IsNamed : Item → Prop
  | .verbatim _ => True
  | .leaf _ form _ _ => form.IsNamed
  | .inlineModule _ name _ items => name.IsDeclared ∧ Item.AreNamed items

/-- The names of items can be declared. -/
def Item.AreNamed : List Item → Prop
  | [] => True
  | item :: rest => item.IsNamed ∧ Item.AreNamed rest

end

theorem Item.areNamed_iff {items : List Item} :
    Item.AreNamed items ↔ ∀ item ∈ items, item.IsNamed := by
  induction items with
  | nil => simp [Item.AreNamed]
  | cons item items ih => rw [Item.AreNamed, ih, List.forall_mem_cons]

namespace Grammar

open Rule

variable {α β : Type} {start : List Token} {P : α → Prop} {Q : β → Prop} {g : Rules}

/-! ### Items without names of interest -/

/-- A rule whose values have a property wherever they are read. -/
def Yields (P : α → Prop) (r : Rule α) : Prop :=
  ∀ ts a rest, r ts = some (a, rest) → P a

theorem Yields.gives {r : Rule α} (h : Yields P r) : Gives start P r :=
  fun ts a rest _ _ hrun => h ts a rest hrun

theorem Yields.bind {r : Rule α} {f : α → Rule β} (hf : ∀ a, Yields Q (f a)) :
    Yields Q (r >>= f) := by
  intro ts b rest hrun
  obtain ⟨a, middle, -, hrest⟩ := bind_eq_some hrun
  exact hf a middle b rest hrest

theorem Yields.pure {a : α} (h : P a) : Yields P (Pure.pure a : Rule α) := by
  intro ts b rest hrun
  obtain ⟨rfl, -⟩ := Prod.mk.inj (Option.some.inj hrun)
  exact h

theorem Yields.ite {p : Prop} [Decidable p] {r r' : Rule α} (h : Yields P r)
    (h' : Yields P r') : Yields P (if p then r else r') := by
  split
  · exact h
  · exact h'

/-- A rule may choose how to go on by what is ahead. -/
theorem Yields.whether {p : Ahead} {r r' : Rule α} (h : Yields P r) (h' : Yields P r') :
    Yields P (Rule.sees p >>= fun answer => if answer = true then r else r') :=
  .bind fun _ => .ite h h'

section

variable {attributes : List Attribute} {visible : List Token}

/-- What is kept as it was written has no names of interest. -/
theorem verbatim_yields (ts : List Token) :
    Yields Item.IsNamed (Rule.since ts >>= fun ts => Pure.pure (.verbatim ts)) :=
  .bind fun _ => .pure trivial

theorem functionItem_yields : Yields Item.IsNamed (functionItem g start attributes visible) := by
  unfold functionItem
  refine .bind fun s => .whether (.bind fun _ => verbatim_yields start) ?_
  exact .bind fun _ => .pure trivial

theorem foreignBlock_yields : Yields Item.IsNamed (foreignBlock g attributes) := by
  unfold foreignBlock
  exact .bind fun _ => .bind fun _ => .pure trivial

theorem importItem_yields : Yields Item.IsNamed (importItem g start attributes visible) := by
  unfold importItem
  refine .bind fun head => .bind fun tree => .bind fun tail => ?_
  cases tree with
  | some ts => exact .pure trivial
  | none => exact verbatim_yields start

theorem staticItem_yields : Yields Item.IsNamed (staticItem g start attributes visible) := by
  unfold staticItem
  refine .bind fun head => .bind fun i => .whether (.bind fun _ => verbatim_yields start) ?_
  refine .bind fun type => .whether (.bind fun _ => verbatim_yields start) ?_
  exact .bind fun value => .pure trivial

theorem constantItem_yields : Yields Item.IsNamed (constantItem g start attributes visible) := by
  unfold constantItem
  exact .bind fun _ => .bind fun _ => .ite (.pure trivial) (verbatim_yields start)

theorem traitItem_yields : Yields Item.IsNamed (traitItem g attributes visible) := by
  have hrest : ∀ i head, Yields Item.IsNamed (restOfTrait g attributes i head) := by
    intro i head
    unfold restOfTrait
    extract_lets next
    have hnext : ∀ bounds, Yields Item.IsNamed (next bounds) := fun bounds =>
      .bind fun conditions => .bind fun body => .pure trivial
    exact .whether (.bind fun _ => .bind hnext) (.bind hnext)
  unfold traitItem
  refine .bind fun first => .bind fun i => .bind fun generics => .bind fun isSum => ?_
  refine .ite (.bind fun eq => .bind fun entries => .bind fun tail => .pure trivial) ?_
  exact hrest i _

theorem typeAlias_yields : Yields Item.IsNamed (typeAlias g start attributes visible) := by
  unfold typeAlias
  exact .bind fun t => .ite (verbatim_yields start) (.pure trivial)

theorem structItem_yields : Yields Item.IsNamed (structItem g attributes visible) := by
  unfold structItem
  refine .bind fun first => .bind fun i => .bind fun generics => .bind fun isConditioned => ?_
  refine .bind fun conditions => ?_
  extract_lets next
  have hnext : ∀ fields, Yields Item.IsNamed (next fields) := fun fields => .pure trivial
  refine .bind fun isNamed => .bind fun isPositional => .ite (.bind hnext) ?_
  exact .ite (.bind hnext) (.bind hnext)

theorem unionItem_yields : Yields Item.IsNamed (unionItem g attributes visible) := by
  unfold unionItem
  exact .bind fun first => .bind fun i => .bind fun generics => .bind fun rest => .pure trivial

theorem macroDefinition_yields : Yields Item.IsNamed (macroDefinition start) := by
  unfold macroDefinition
  exact .bind fun _ => .bind fun _ => .bind fun _ => verbatim_yields start

theorem macroItem_yields : Yields Item.IsNamed (macroItem attributes) := by
  unfold macroItem
  refine .bind fun head => .bind fun isBraced => .bind fun arguments => ?_
  extract_lets next
  have hnext : ∀ tail, Yields Item.IsNamed (next tail) := fun tail => .pure trivial
  exact .ite (.bind hnext) (.bind hnext)

end

/-! ### Names -/

theorem name_gives : Gives start Ident.IsDeclared Rule.name := by
  intro ts i rest hstart hts hrun
  unfold Rule.name at hrun
  split at hrun
  next i' us =>
    have hclean := hts.areClean hstart
    rw [areClean_ident_cons] at hclean
    split at hrun
    next hname =>
      obtain ⟨rfl, -⟩ := Prod.mk.inj (Option.some.inj hrun)
      exact hclean.1.isDeclared hname
    next => cases hrun
  next => cases hrun

/-- A word with a plain spelling that is no name for its own sake. -/
theorem isDeclared_of_text {i : Ident} (hi : i.IsLexed) (h : i.text = "try") : i.IsDeclared := by
  unfold Ident.text at h
  cases hraw : i.raw with
  | true => exact ⟨hi, (hi.2 hraw).1, (hi.2 hraw).2⟩
  | false =>
    have hname : i.name = "try" := by simpa [hraw] using h
    exact ⟨hi, by rw [hname]; decide, by rw [hname]; decide⟩

/-- The word `try` is as good as a name. -/
theorem nameOrTry_gives {f : Ident → Rule β} (hf : ∀ i, i.IsDeclared → Gives start Q (f i)) :
    Gives start Q (Rule.sees (Ahead.word "try") >>= fun isTry =>
      if isTry = true then Rule.anyWord >>= f else Rule.name >>= f) := by
  -- What is ahead decides, and it has to be known in the one case: the word read
  -- is `try` since it was seen.
  intro ts b rest hstart hts hrun
  obtain ⟨isTry, middle, hsees, hrest⟩ := bind_eq_some hrun
  obtain ⟨rfl, rfl⟩ := Prod.mk.inj (Option.some.inj hsees)
  split at hrest
  next htry =>
    obtain ⟨i, after, hi, hrest⟩ := bind_eq_some hrest
    obtain ⟨hread, hlexed⟩ := anyWord_sound ts i after hstart hts hi
    refine hf i (isDeclared_of_text hlexed ?_) after b rest hstart (hts.trans hread) hrest
    unfold Rule.anyWord at hi
    split at hi
    next =>
      obtain ⟨rfl, -⟩ := Prod.mk.inj (Option.some.inj hi)
      exact beq_iff_eq.mp htry
    next => cases hi
  next =>
    have hname : Gives start Q (Rule.name >>= f) :=
      name_gives.bind name_sound fun i _ hi => hf i hi
    exact hname ts b rest hstart hts hrest

/-! ### Patterns -/

/-- A name that a pattern is, is one for the lexer. -/
def Pattern.IsNamed (p : Pattern) : Prop :=
  ∀ i, p.shape = .binding i → i.IsLexed

theorem plainPattern_yields (r : Phrase) : Yields Pattern.IsNamed (plainPattern r) :=
  .bind fun _ => .pure nofun

theorem boxPattern_yields : Yields Pattern.IsNamed (boxPattern g) := by
  unfold boxPattern
  exact .bind fun _ => .bind fun _ => .bind fun _ => .bind fun _ => .pure nofun

theorem rangeFrom_yields (first : List Token) : Yields Pattern.IsNamed (rangeFrom g first) := by
  unfold rangeFrom
  refine .whether (.bind fun ⟨isClosed, points⟩ => .bind fun finish => ?_) (.pure nofun)
  extract_lets next
  have hnext : ∀ u, Yields Pattern.IsNamed (next u) := fun _ => .pure nofun
  exact .ite (.ite (.bind hnext) (.pure nofun)) (hnext ⟨⟩)

theorem rangeTo_yields : Yields Pattern.IsNamed (rangeTo g) := by
  unfold rangeTo
  refine .bind fun ⟨isClosed, points⟩ => .bind fun finish => ?_
  extract_lets next
  have hnext : ∀ u, Yields Pattern.IsNamed (next u) := fun _ => .pure nofun
  exact .ite (.ite (.bind hnext) (.pure nofun)) (hnext ⟨⟩)

theorem pathPattern_yields : Yields Pattern.IsNamed (pathPattern g) := by
  unfold pathPattern
  refine .bind fun ⟨path, tokens⟩ => .bind fun isMacro => .ite (.bind fun _ => .pure nofun) ?_
  refine .whether (.bind fun _ => .pure nofun) (.whether (.bind fun _ => .pure nofun) ?_)
  exact rangeFrom_yields tokens

theorem bindingPattern_gives : Gives start Pattern.IsNamed (bindingPattern g) := by
  unfold bindingPattern
  refine .after (by grind) fun first _ => ?_
  extract_lets next
  have hnext : ∀ i, i.IsLexed → Gives start Pattern.IsNamed (next i) := by
    intro i hi
    refine .always fun rest j hj => ?_
    obtain rfl := PatternShape.binding.inj hj
    exact hi
  exact .whether (.after anyWord_sound hnext) (.after name_sound hnext)

/-- The name of a pattern is one for the lexer. -/
theorem pattern_gives (h : AreSound g) : Gives start Pattern.IsNamed (pattern g) := by
  unfold pattern
  refine .whether pathPattern_yields.gives (.whether (plainPattern_yields _).gives ?_)
  refine .whether boxPattern_yields.gives (.whether ?_ (.whether bindingPattern_gives ?_))
  · exact .after (rangeBound_sound h) fun first _ => (rangeFrom_yields first).gives
  refine .whether (plainPattern_yields _).gives (.whether (plainPattern_yields _).gives ?_)
  exact .whether (plainPattern_yields _).gives rangeTo_yields.gives

/-! ### Functions -/

/-- An argument that a parameter stands for has a name and a type. -/
def FunctionParameter.IsNamed (p : FunctionParameter) : Prop :=
  ∀ a, p.argument? = some a → a.IsNamed

/-- The circle of rules gives items with names. -/
structure AreNamed (g : Rules) : Prop where
  pattern : ∀ start, Gives start Pattern.IsNamed g.pattern
  item : ∀ start, Gives start Item.IsNamed g.item

theorem typePhrase_gives (h : AreSound g) (hg : AreWritten g) (allowPlus : Bool) :
    Gives start (fun ts => AreClean ts ∧ ts ≠ []) (typePhrase g allowPlus) := by
  unfold typePhrase
  refine (hg.type start allowPlus).bind (h.type start allowPlus) fun t htidy ht => ?_
  exact .pure ⟨htidy.1, ht⟩

theorem typedParameter_gives (h : AreSound g) (hwritten : AreWritten g) (hg : AreNamed g) :
    Gives start (fun p => FunctionParameter.IsNamed p.1) (typedParameter g) := by
  have htype : Gives start (fun ts => AreClean ts ∧ ts ≠ []) (typePhrase g true) :=
    typePhrase_gives h hwritten true
  unfold typedParameter
  refine .whether (htype.map fun ts hts a ha => ?_) ?_
  · -- A type alone is an argument without a name.
    obtain rfl := Option.some.inj ha
    exact ⟨nofun, hts.1, hts.2⟩
  refine (hg.pattern start).bind (h.pattern start) fun p _ hp => ?_
  refine .after (mark_sound (by grind)) fun colon _ => ?_
  -- Dots in place of the type make no argument.
  refine .whether (.always fun _ => nofun) (htype.map fun ts hts a ha => ?_)
  obtain rfl := Option.some.inj ha
  refine ⟨fun i hi => ?_, hts.1, hts.2⟩
  split at hi
  next j hshape =>
    obtain rfl := Option.some.inj hi
    exact hp j hshape
  next => cases hi

theorem functionParameter_gives (h : AreSound g) (hwritten : AreWritten g) (hg : AreNamed g) :
    Gives start (fun p => FunctionParameter.IsNamed p.1) (functionParameter g) := by
  unfold functionParameter
  refine .whether (.always fun _ => nofun) (.look fun ts => ?_)
  split
  next => exact .always fun _ => nofun
  next => exact typedParameter_gives h hwritten hg

theorem functionParameters_gives (h : AreSound g) (hwritten : AreWritten g) (hg : AreNamed g) :
    Gives start (fun p => ∀ q ∈ p.1, FunctionParameter.IsNamed q) (functionParameters g) := by
  refine .look fun ts => ?_
  -- Only the first parameter may be a receiver, so the flag changes on the way.
  generalize ts.length + 1 = n
  generalize true = isFirst
  induction n generalizing isFirst with
  | zero => exact .failure
  | succ n ih =>
    unfold functionParametersWithin
    refine .whether (.pure (List.forall_mem_nil _)) ?_
    refine .after (outer_sound h) fun attributes _ => ?_
    refine (functionParameter_gives h hwritten hg).bind (functionParameter_sound h) ?_
    rintro ⟨parameter, ts⟩ - hparameter
    refine .unless (.after (whenever_sound (mark_sound (by grind))) fun comma _ => ?_)
    have hmore : ∀ more : List FunctionParameter × List Token,
        (∀ q ∈ more.1, q.IsNamed) → ∀ q ∈ parameter :: more.1, q.IsNamed :=
      fun _ hmore => List.forall_mem_cons.mpr ⟨hparameter, hmore⟩
    cases parameter with
    | dots => exact .map (.pure (List.forall_mem_nil _)) hmore -- no parameter may follow
    | receiver => exact (ih false).map hmore
    | typed a => exact (ih false).map hmore

/-- The function with a signature has arguments with names and types. -/
theorem signature_gives (h : AreSound g) (hwritten : AreWritten g) (hg : AreNamed g)
    (allowSafe : Bool) : Gives start (fun s => s.method.IsNamed) (signature g allowSafe) := by
  unfold signature
  refine .after (by grind) fun first _ => .after name_sound fun i _ => ?_
  refine .after (optionalGenerics_sound h) fun generics _ => ?_
  refine .bind (.inside fun ts => functionParameters_gives h hwritten hg)
    (inside_sound fun _ => functionParameters_sound h) fun ⟨parameters, ts⟩ _ hparameters => ?_
  refine .after (sees_sound _) fun hasResult _ => ?_
  extract_lets next
  have hnext : ∀ result, Gives start (fun s => s.method.IsNamed) (next result) := by
    intro ⟨arrow, type⟩
    refine .always fun conditions a ha => ?_
    obtain ⟨parameter, hparameter, ha⟩ := List.mem_filterMap.mp ha
    exact hparameters parameter hparameter a ha
  refine .ite (.after (mark_sound (by grind)) fun arrow _ => ?_) (hnext ([], none))
  exact .after (h.type start true) fun t _ => hnext (arrow, some t)

theorem implFunction_gives (h : AreSound g) (hwritten : AreWritten g) (hg : AreNamed g)
    (attributes head : List Token) :
    Gives start (fun m => ∀ f ∈ m.1, Method.IsNamed f) (implFunction g start attributes head) := by
  unfold implFunction
  refine (signature_gives h hwritten hg false).bind (signature_sound h false) fun s _ hs => ?_
  refine .whether (.after (mark_sound (by grind)) fun _ _ => .always fun _ => nofun) ?_
  refine .always fun _ f hf => ?_
  obtain rfl := Option.some.inj hf
  exact hs

theorem implMember_gives (h : AreSound g) (hwritten : AreWritten g) (hg : AreNamed g) :
    Gives start (fun m => ∀ f ∈ m.1, Method.IsNamed f) (implMember g) := by
  unfold implMember
  refine .get fun ts => .after (outer_sound h) fun attributes _ => ?_
  refine .after visibility_sound fun visible _ => .after (whenever_sound (word_sound _)) ?_
  intro default _
  refine .whether (implFunction_gives h hwritten hg _ _) (.whether ?_ (.whether ?_ ?_))
  · exact .after (memberConstant_sound h true) fun ⟨constant, hasForm⟩ _ => .always fun _ => nofun
  · exact .after (typeItem_sound h false true) fun t _ => .always fun _ => nofun
  · exact .after (expects_sound _) fun _ _ => .always fun _ => nofun

section

variable {attributes : List Attribute} {visible : List Token}

/-- A block has functions whose arguments have names and types. -/
theorem implItem_gives (h : AreSound g) (hwritten : AreWritten g) (hg : AreNamed g) :
    Gives start Item.IsNamed (implItem g start attributes visible) := by
  unfold implItem
  refine .after (by grind) fun head _ => .after (sees_sound _) fun hasGenerics _ => ?_
  -- What comes after the generics, and what comes after the type, stands in two branches each.
  extract_lets afterGenerics
  have hgenerics : ∀ generics, Gives start Item.IsNamed (afterGenerics generics) := by
    intro generics
    refine .after constantImpl_sound fun constant _ => ?_
    refine .after (whenever_sound (mark_sound (by grind))) fun negation _ => ?_
    refine .after (h.type start true) fun first hfirst => .after (sees_sound _) fun isFor _ => ?_
    refine .unless (.after (optionalWord_sound _) fun for_ _ => ?_)
    extract_lets afterSelf
    have hself : ∀ self, Gives start Item.IsNamed (afterSelf self) := by
      intro self
      refine .after (optionalConditions_sound h) fun conditions _ => ?_
      -- Only the members between the braces have functions in them.
      refine .bind (P := fun p => ∀ m ∈ p.2, ∀ f ∈ m.1, Method.IsNamed f) ?_ (by grind) ?_
      · refine .inside fun ts => .after (innerAttributes_sound h) fun inner _ => ?_
        exact .map (.repeatUntil (implMember_sound h) (implMember_gives h hwritten hg))
          fun members hmembers => hmembers
      · intro ⟨inner, members⟩ _ hmembers
        refine .ite (verbatim_yields start).gives (.pure fun f hf => ?_)
        obtain ⟨m, hm, hf⟩ := List.mem_filterMap.mp hf
        exact hmembers m hm f hf
    exact .ite (.after (h.type start true) fun self _ => hself self)
      (.after (.pure hfirst) fun self _ => hself self)
  exact .ite (.after (optionalGenerics_sound h) fun generics _ => hgenerics generics) (hgenerics _)

/-! ### Enums and modules -/

theorem variant_gives (h : AreSound g) :
    Gives start (fun v => v.1.name.IsDeclared) (variant g) := by
  unfold variant
  refine .after (outer_sound h) fun attributes _ => .after visibility_sound fun _ _ => ?_
  refine name_gives.bind name_sound fun i _ hi => ?_
  extract_lets next
  have hnext : ∀ fields, Gives start (fun v => v.1.name.IsDeclared) (next fields) :=
    fun fields => .always fun value => hi
  exact .whether (.after (namedFields_sound h) fun fields _ => hnext fields)
    (.after (whenever_sound (positionalFields_sound h)) fun fields _ => hnext fields)

theorem enumItem_gives (h : AreSound g) :
    Gives start Item.IsNamed (enumItem g attributes visible) := by
  unfold enumItem
  refine .after (word_sound _) fun first _ => name_gives.bind name_sound fun i _ hi => ?_
  refine .after (optionalGenerics_sound h) fun generics _ => ?_
  refine .after (optionalConditions_sound h) fun conditions _ => ?_
  refine .map (.inside fun ts =>
    .entriesUntil (variant_sound h) (mark_sound (by grind)) (variant_gives h)) ?_
  intro entries hentries
  refine ⟨hi, fun v hv => ?_⟩
  obtain ⟨e, he, rfl⟩ := List.mem_map.mp hv
  exact hentries e he

theorem moduleItem_gives (h : AreSound g) (hg : AreNamed g) :
    Gives start Item.IsNamed (moduleItem g attributes visible) := by
  unfold moduleItem
  refine .after (by grind) fun first _ => ?_
  extract_lets next
  refine nameOrTry_gives fun i hi => ?_
  refine .whether (.always fun _ => trivial) ?_
  refine .map (P := fun p => ∀ item ∈ p.2, Item.IsNamed item) ?_ fun p hp => ?_
  · refine .inside fun ts => .after (innerAttributes_sound h) fun inner _ => ?_
    exact .map (.repeatUntil (h.item ts) (hg.item ts)) fun items hitems => hitems
  · exact ⟨hi, Item.areNamed_iff.mpr hp⟩

/-! ### Items -/

theorem itemBody_gives (h : AreSound g) (hwritten : AreWritten g) (hg : AreNamed g) :
    Gives start Item.IsNamed (itemBody g start attributes visible) := by
  unfold itemBody
  refine .whether functionItem_yields.gives (.whether (.always fun _ => trivial) ?_)
  refine .whether (.ite foreignBlock_yields.gives .failure) ?_
  refine .whether importItem_yields.gives (.whether staticItem_yields.gives ?_)
  refine .whether constantItem_yields.gives (.whether traitItem_yields.gives ?_)
  refine .whether (moduleItem_gives h hg) (.whether typeAlias_yields.gives ?_)
  refine .whether structItem_yields.gives (.whether (enumItem_gives h) ?_)
  refine .whether unionItem_yields.gives (.whether (implItem_gives h hwritten hg) ?_)
  refine .whether macroDefinition_yields.gives ?_
  exact .after (expects_sound _) fun _ _ => macroItem_yields.gives

end

/-- One level of the grammar gives items with names. -/
theorem item_gives (h : AreSound g) (hwritten : AreWritten g) (hg : AreNamed g) :
    Gives start Item.IsNamed (item g) := by
  unfold item
  -- The attributes are read before the kind of the item is known; they bring no names.
  refine .get fun ts => .after (outerAttributes_sound h) fun attributes _ => ?_
  exact .after visibility_sound fun visible _ => itemBody_gives h hwritten hg

/-! ### The grammar -/

theorem areNamed_none : AreNamed Rules.none where
  pattern _ := .failure
  item _ := .failure

/-- The grammar gives items with names, at any depth. -/
theorem areNamed_grammar (n : Nat) : AreNamed (grammar n) := by
  -- Of the types, too, names are required, and these are a matter of another induction.
  induction n with
  | zero => exact areNamed_none
  | succ n ih =>
    exact {
      pattern := fun _ => pattern_gives (areSound_grammar n)
      item := fun _ => item_gives (areSound_grammar n) (areWritten_grammar n) ih }

/-- The item that clean tokens are has names. -/
theorem isNamed_of_item? {ts : List Token} {found : Item} (hts : AreClean ts)
    (h : item? ts = some found) : found.IsNamed := by
  unfold item? Rule.whole? at h
  split at h
  next hrun =>
    obtain rfl := Option.some.inj h
    exact (areNamed_grammar _).item ts ts _ [] hts (Reads.refl ts) hrun
  next => cases h

/-- The items that clean tokens are have names. -/
theorem isNamed_of_items? {ts : List Token} {items : List Item} (hts : AreClean ts)
    (h : items? ts = some items) : ∀ item ∈ items, item.IsNamed := by
  have hgrammar : Gives ts (fun items => ∀ item ∈ items, Item.IsNamed item)
      (do
        let _ ← innerAttributes (rulesFor ts)
        Rule.repeatUntil Ahead.nothing (rulesFor ts).item) :=
    .after (innerAttributes_sound (areSound_grammar _)) fun _ _ =>
      .repeatUntil ((areSound_grammar _).item ts) ((areNamed_grammar _).item ts)
  unfold items? Rule.whole? at h
  extract_lets g at h
  split at h
  next items' hrun =>
    obtain rfl := Option.some.inj h
    exact hgrammar ts _ [] hts (Reads.refl ts) hrun
  next => cases h

end Grammar

/-- The items of a source file have names. -/
theorem SourceText.isNamed_of_file? {text : String} {items : List Item}
    (h : SourceText.file? text = some items) : ∀ item ∈ items, item.IsNamed := by
  obtain ⟨ts, hts, hitems⟩ := Option.bind_eq_some_iff.mp h
  exact Grammar.isNamed_of_items? (lex?_areClean hts) hitems

end EnumCompanion
