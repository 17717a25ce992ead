import EnumCompanion.Proofs.Grammar.Sound

/-!
# `EnumCompanion.Proofs.Grammar.Types`: the rules of types are sound

`AreSound` says of the rules that call each other in a circle that they are
sound. A rule of one level is sound if those one level deeper are; this
module has the rules for attributes, for parameters, for paths and their
arguments, for types, and for conditions.
-/

set_option autoImplicit false

namespace EnumCompanion.Grammar

open EnumCompanion.Token
open Rule

/-! ### The circle of rules -/

/-- The rules that call each other in a circle are sound, and an operand is
a token at least. -/
structure AreSound (g : Rules) : Prop where
  type : ∀ start allowPlus, Sound start (g.type allowPlus)
  bound : ∀ start allowCaptures allowConstant, Sound start (g.bound allowCaptures allowConstant)
  expression : ∀ start allowStruct, Sound start (g.expression allowStruct)
  operand : ∀ start allowStruct, Proper start (g.operand allowStruct)
  climb : ∀ start allowStruct left floor, tidy left → Sound start (g.climb allowStruct left floor)
  bounded : ∀ start, Sound start g.bounded
  pattern : ∀ start, Sound start g.pattern
  statements : ∀ start, Sound start g.statements
  item : ∀ start, Sound start g.item
  imports : ∀ start allowGlobal, Sound start (g.imports allowGlobal)

/-- The rules that read nothing are sound. -/
theorem areSound_none : AreSound Rules.none where
  type _ _ := Sound.failure
  bound _ _ _ := Sound.failure
  expression _ _ := Sound.failure
  operand _ _ := Proper.failure
  climb _ _ _ _ _ := Sound.failure
  bounded _ := Sound.failure
  pattern _ := Sound.failure
  statements _ := Sound.failure
  item _ := Sound.failure
  imports _ _ := Sound.failure

grind_pattern AreSound.type => AreSound g, Sound start (g.type allowPlus)
grind_pattern AreSound.bound => AreSound g, Sound start (g.bound allowCaptures allowConstant)
grind_pattern AreSound.expression => AreSound g, Sound start (g.expression allowStruct)
grind_pattern AreSound.climb => AreSound g, Sound start (g.climb allowStruct left floor)
grind_pattern AreSound.bounded => AreSound g, Sound start g.bounded
grind_pattern AreSound.pattern => AreSound g, Sound start g.pattern
grind_pattern AreSound.statements => AreSound g, Sound start g.statements
grind_pattern AreSound.item => AreSound g, Sound start g.item
grind_pattern AreSound.imports => AreSound g, Sound start (g.imports allowGlobal)

@[grind .]
theorem operand_sound {g : Rules} (h : AreSound g) {start : List Token} (allowStruct : Bool) :
    Sound start (g.operand allowStruct) :=
  (h.operand start allowStruct).sound

variable {g : Rules} {start : List Token}

/-! ### Attributes and blocks -/

/-- Names with separators behind them are clean. -/
theorem areClean_names {entries : List (Entry Ident)} (h : tidy entries) :
    AreClean (entries.flatMap fun e => .ident e.value :: e.separator) :=
  areClean_flatMap fun e he => (areClean_ident_cons e.value e.separator).mpr (h e he)

@[grind .]
theorem plainPath_sound : Sound start plainPath := by
  refine .bind (by grind) fun first hfirst => .bind (by grind) fun entries hentries => ?_
  split
  · exact .pure (areClean_append hfirst (areClean_names hentries))
  · exact .failure

@[grind .]
theorem attributePath_sound : Sound start attributePath := by
  unfold attributePath
  grind

/-- The value of an attribute is read to the end of the attribute. -/
@[grind .]
theorem attributeValue_sound (h : AreSound g) : Sound start (attributeValue g) := by
  intro ts a rest hstart hts hrun
  have hclean := hts.areClean hstart
  unfold attributeValue at hrun
  split at hrun
  next s =>
    obtain ⟨rfl, rfl⟩ := Prod.mk.inj (Option.some.inj hrun)
    exact ⟨⟨[.literal s], rfl, hclean⟩, hclean, fun _ _ => trivial⟩
  next =>
    split at hrun
    next tokens hliteral =>
      obtain ⟨rfl, rfl⟩ := Prod.mk.inj (Option.some.inj hrun)
      obtain ⟨hreads, htokens⟩ := literal_sound ts tokens [] hstart hts hliteral
      exact ⟨hreads, htokens, tidy_none⟩
    next =>
      split at hrun
      next => cases hrun
      next =>
        have hvalue : Sound start
            (do return ((← g.expression true).tokens, (none : Option String))) := by grind
        exact hvalue ts a rest hstart hts hrun

@[grind .]
theorem attributeContent_sound (h : AreSound g) (isInner : Bool) :
    Sound start (attributeContent g isInner) := by
  unfold attributeContent
  refine .bind attributePath_sound fun path hpath => ?_
  grind

@[grind .]
theorem attributeAfter_sound (h : AreSound g) (isInner : Bool) {first : Phrase}
    (hfirst : Sound start first) : Sound start (attributeAfter g isInner first) := by
  unfold attributeAfter
  grind

@[grind .]
theorem outerAttributes_sound (h : AreSound g) : Sound start (outerAttributes g) := by
  unfold outerAttributes
  grind

@[grind .]
theorem innerAttributes_sound (h : AreSound g) : Sound start (innerAttributes g) := by
  have hmarks : Sound start (join [mark "#", mark "!"]) := by grind
  unfold innerAttributes
  grind

@[grind .]
theorem areClean_tokensOf {attributes : List Attribute} (h : tidy attributes) :
    AreClean (Attribute.tokensOf attributes) :=
  areClean_flatMap h

@[grind .]
theorem outer_sound (h : AreSound g) : Sound start (outer g) := by
  unfold outer
  grind

@[grind .]
theorem inner_sound (h : AreSound g) : Sound start (inner g) := by
  unfold inner
  grind

@[grind .]
theorem block_sound (h : AreSound g) : Sound start (block g) := by
  unfold block
  grind

@[grind .]
theorem attributedBlock_sound (h : AreSound g) : Sound start (attributedBlock g) := by
  unfold attributedBlock
  grind

@[grind .]
theorem macroArguments_sound : Sound start macroArguments := by
  unfold macroArguments
  grind

/-! ### Parameters and binders -/

@[grind .]
theorem typePhrase_sound (h : AreSound g) (allowPlus : Bool) :
    Sound start (typePhrase g allowPlus) := by
  unfold typePhrase
  grind

/-- Entries with their separators are clean. -/
theorem areClean_written {entries : List (Entry AngledEntry)} (h : tidy entries) :
    AreClean (entries.flatMap fun e => e.value.tokens ++ e.separator) :=
  areClean_flatMap fun e he => areClean_append (h e he).1 (h e he).2

@[grind .]
theorem areClean_lifetimesFirst {entries : List (Entry AngledEntry)} (h : tidy entries) :
    AreClean (lifetimesFirst entries) := by
  have hfilter : ∀ p : Entry AngledEntry → Bool, tidy (entries.filter p) :=
    fun p e he => h e (List.mem_filter.mp he).1
  refine areClean_append (areClean_append (areClean_written (hfilter _)) ?_)
    (areClean_written (hfilter _))
  split
  · exact areClean_operator (by grind)
  · trivial

@[grind .]
theorem inAngles_sound {entry : Rule AngledEntry} (h : Sound start entry) :
    Sound start (inAngles entry) := by
  unfold inAngles
  grind

@[grind .]
theorem constantArgument_sound (h : AreSound g) : Sound start (constantArgument g) := by
  unfold constantArgument
  grind

@[grind .]
theorem areClean_boundTokens {entries : List (Entry Bound)} (h : tidy entries) :
    AreClean (boundTokens entries) :=
  areClean_flatMap fun e he => areClean_append (h e he).1.1 (h e he).2

@[grind .]
theorem boundsUntil_sound (h : AreSound g) (stop : Ahead) (allowConstant : Bool) :
    Sound start (boundsUntil g stop allowConstant) := by
  unfold boundsUntil
  grind

@[grind .]
theorem areClean_colonUnlessEmpty {ts : List Token} (h : AreClean ts) :
    AreClean (colonUnlessEmpty ts) := by
  unfold colonUnlessEmpty
  grind

@[grind .]
theorem lifetimesUntil_sound (stop : Ahead) : Sound start (lifetimesUntil stop) := by
  unfold lifetimesUntil
  grind

@[grind .]
theorem lifetimeParameter_sound : Sound start lifetimeParameter := by
  unfold lifetimeParameter
  grind

@[grind .]
theorem typeParameter_sound (h : AreSound g) : Sound start (typeParameter g) := by
  unfold typeParameter
  refine .bind (by grind) fun label hlabel => .bind (sees_sound _) fun isBounded _ => ?_
  grind

@[grind .]
theorem constantParameter_sound (h : AreSound g) : Sound start (constantParameter g) := by
  have hdefault : Sound start (join [mark "=", constantArgument g]) := by grind
  unfold constantParameter
  grind

@[grind .]
theorem genericParameter_sound (h : AreSound g) : Sound start (genericParameter g) := by
  unfold genericParameter
  grind

@[grind .]
theorem binder_sound (h : AreSound g) : Sound start (binder g) := by
  unfold binder
  refine .bind (by grind) fun first hfirst => .bind (by grind) fun entries hentries => ?_
  refine .bind (by grind) fun last hlast => .pure ?_
  exact areClean_append (areClean_append hfirst (areClean_written hentries)) hlast

@[grind .]
theorem optionalBinder_sound (h : AreSound g) : Sound start (optionalBinder g) := by
  unfold optionalBinder
  grind

/-! ### Arguments -/

@[grind .]
theorem resultType_sound (h : AreSound g) (allowPlus : Bool) :
    Sound start (resultType g allowPlus) := by
  unfold resultType
  grind

@[grind .]
theorem functionArguments_sound (h : AreSound g) : Sound start (functionArguments g) := by
  unfold functionArguments
  grind

@[grind .]
theorem angledArgument_sound (h : AreSound g) : Sound start (angledArgument g) := by
  unfold angledArgument
  refine .whether (by grind) (.whether (by grind) ?_)
  refine .bind (h.type start true) fun t ht => .ite ?_ (by grind)
  grind

/-! ### Paths -/

/-- A name in a path is a token. -/
theorem segment_proper (h : AreSound g) (inExpression : Bool) :
    Proper start (segment g inExpression) := by
  unfold segment
  refine .whether ?_ (.after (sees_sound _) fun isSelf _ => ?_)
  · exact anyWord_proper.bind fun i hi => .pure ⟨hi, (areClean_ident_cons i []).mpr ⟨hi, trivial⟩⟩
  · extract_lets next
    have hnext : ∀ i, tidy i → Sound start (next i) := by
      intro i hi
      refine .whether ?_ (by grind)
      grind
    clear_value next
    exact .ite (anyWord_proper.bind hnext) (name_proper.bind hnext)

@[grind .]
theorem segment_sound (h : AreSound g) (inExpression : Bool) :
    Sound start (segment g inExpression) :=
  (segment_proper h inExpression).sound

@[grind .]
theorem areClean_pathOf {first : List Token} {entries : List (Entry (Segment × List Token))}
    (hfirst : AreClean first) (h : tidy entries) : AreClean (pathOf first entries).tokens :=
  areClean_append hfirst
    (areClean_flatMap fun e he => areClean_append (h e he).1.2 (h e he).2)

/-- There is a name in a path at least. -/
theorem segments_proper (h : AreSound g) (inExpression : Bool) (more : Ahead) :
    Proper start (segments g inExpression more) :=
  chainUntil_proper (segment_proper h inExpression) (mark_sound (by grind))

@[grind .]
theorem segments_sound (h : AreSound g) (inExpression : Bool) (more : Ahead) :
    Sound start (segments g inExpression more) :=
  (segments_proper h inExpression more).sound

theorem path_proper (h : AreSound g) (inExpression : Bool) :
    Proper start (path g inExpression) := by
  unfold path
  refine .after (by grind) fun first hfirst => ?_
  exact (segments_proper h inExpression _).bind fun entries hentries =>
    .pure (areClean_pathOf hfirst hentries)

@[grind .]
theorem path_sound (h : AreSound g) (inExpression : Bool) : Sound start (path g inExpression) :=
  (path_proper h inExpression).sound

theorem qualifier_proper (h : AreSound g) : Proper start (qualifier g) := by
  have htrait : Sound start (do return (← path g false).tokens) := by grind
  unfold qualifier
  refine join_cons_proper (mark_proper (by grind)) ?_
  grind

/-- A path that may be qualified is a token at least. -/
theorem qualifiedPath_proper (h : AreSound g) (inExpression : Bool) :
    Proper start (qualifiedPath g inExpression) := by
  unfold qualifiedPath
  refine .whether ((qualifier_proper h).bind fun first hfirst => ?_)
    ((path_proper h inExpression).bind fun p hp => ?_)
  · grind
  · grind

@[grind .]
theorem qualifiedPath_sound (h : AreSound g) (inExpression : Bool) :
    Sound start (qualifiedPath g inExpression) :=
  (qualifiedPath_proper h inExpression).sound

/-! ### Bounds -/

@[grind .]
theorem captures_sound : Sound start captures := by
  unfold captures
  grind

@[grind .]
theorem constantMark_sound : Sound start constantMark := by
  unfold constantMark
  grind

@[grind .]
theorem tidy_withoutAngles {entries : List (Entry (Segment × List Token))} (h : tidy entries) :
    tidy (withoutAngles entries) := by
  intro e he
  obtain ⟨e', he', rfl⟩ := List.mem_map.mp he
  obtain ⟨⟨hname, htokens⟩, hseparator⟩ := h e' he'
  split
  · exact ⟨⟨hname, (areClean_ident_cons _ []).mpr ⟨hname, trivial⟩⟩, hseparator⟩
  · exact ⟨⟨hname, htokens⟩, hseparator⟩

@[grind .]
theorem traitPath_sound (h : AreSound g) : Sound start (traitPath g) := by
  unfold traitPath
  refine .bind (by grind) fun first hfirst => .bind (by grind) fun entries hentries => ?_
  refine .bind (sees_sound _) fun isFunction _ => .ite ?_ (by grind)
  refine .bind (by grind) fun colons _ => ?_
  grind

@[grind .]
theorem traitBound_sound (h : AreSound g) (allowConstant : Bool) :
    Sound start (traitBound g allowConstant) := by
  unfold traitBound
  refine .bind (by grind) fun before hbefore => .bind (by grind) fun constant hconstant => ?_
  extract_lets next
  have hnext : ∀ u, Sound start (next u) := by
    intro u
    refine .bind (by grind) fun maybe hmaybe => ?_
    grind
  clear_value next
  grind

@[grind .]
theorem bound_sound (h : AreSound g) (allowCaptures allowConstant : Bool) :
    Sound start (bound g allowCaptures allowConstant) := by
  unfold bound
  refine .whether (by grind) (.whether (by grind) ?_)
  refine .get fun ts => .bind (sees_sound _) fun isEnclosed _ => ?_
  grind

@[grind .]
theorem bounds_sound (h : AreSound g) (allowPlus allowCaptures allowConstant : Bool) :
    Sound start (bounds g allowPlus allowCaptures allowConstant) := by
  unfold bounds
  grind

/-! ### Sums of bounds -/

@[grind .]
theorem plainType_sound {r : Phrase} (h : Sound start r) : Sound start (plainType r) := by
  unfold plainType
  grind

@[grind .]
theorem strictSum_sound (h : AreSound g) : Sound start (strictSum g) := by
  unfold strictSum
  grind

@[grind .]
theorem looseSum_sound (h : AreSound g) : Sound start (looseSum g) := by
  unfold looseSum
  grind

@[grind .]
theorem traitBounds_sound (h : AreSound g) (allowPlus allowCaptures allowConstant : Bool) :
    Sound start (traitBounds g allowPlus allowCaptures allowConstant) := by
  unfold traitBounds
  grind

/-! ### Types in parentheses -/

instance : Tidy Parenthesized := ⟨fun
  | .closed ts => AreClean ts
  | .bound inner => AreClean inner
  | .type t => tidy t⟩

@[grind =]
theorem tidy_closed (ts : List Token) : tidy (Parenthesized.closed ts) = AreClean ts := rfl

@[grind =]
theorem tidy_parenthesized_bound (inner : List Token) :
    tidy (Parenthesized.bound inner) = AreClean inner := rfl

@[grind =]
theorem tidy_parenthesized_type (t : TypeTree) : tidy (Parenthesized.type t) = tidy t := rfl

@[grind .]
theorem parenthesized_sound (h : AreSound g) : Sound start (parenthesized g) := by
  unfold parenthesized
  refine .whether (by grind) (.whether (by grind) (.whether (by grind) ?_))
  refine .bind (h.type start true) fun first hfirst => ?_
  grind

@[grind .]
theorem parenthesizedSum_sound (h : AreSound g) {inner : List Token} (hinner : AreClean inner) :
    Sound start (parenthesizedSum g inner) := by
  unfold parenthesizedSum
  grind

@[grind .]
theorem parenthesizedType_sound (h : AreSound g) (allowPlus : Bool) :
    Sound start (parenthesizedType g allowPlus) := by
  unfold parenthesizedType
  refine .bind (by grind) fun content hcontent => ?_
  cases content with
  | closed ts => grind
  | bound inner => grind
  | type t =>
    have hshape : tidy t.shape := hcontent.2
    grind

/-! ### Function types -/

@[grind .]
theorem functionTypeParameter_sound (h : AreSound g) (isFirst : Bool) :
    Sound start (functionTypeParameter g isFirst) := by
  unfold functionTypeParameter
  refine .get fun ts => ?_
  extract_lets isMutable finish next
  have hfinish : ∀ u, Sound ts (finish u) := fun _ => since_sound
  clear_value finish isMutable
  have hnext : ∀ u, Sound ts (next u) := by
    intro u
    refine .bind (sees_sound _) fun isSelf _ => .bind (sees_sound _) fun isNamed _ => ?_
    extract_lets more
    have hmore : ∀ label, AreClean label → Sound ts (more label) := by
      intro label hlabel
      refine .bind (sees_sound _) fun isReceiver _ => ?_
      grind
    clear_value more
    grind
  clear_value next
  grind

@[grind .]
theorem variadicType_sound : Sound start variadicType := by
  have hname : Sound start (join [spelt anyWord, mark ":"]) := by grind
  unfold variadicType
  grind

@[grind .]
theorem functionTypeParameters_sound (h : AreSound g) :
    Sound start (functionTypeParameters g) := by
  suffices h : ∀ n isFirst, Sound start (functionTypeParametersWithin g n isFirst) from
    .count fun n => h n true
  intro n
  induction n with
  | zero => exact fun _ => .failure
  | succ n ih =>
    intro isFirst
    unfold functionTypeParametersWithin
    refine .whether (by grind) (.bind (by grind) fun attributes hattributes => ?_)
    refine .whether (by grind) (.bind (by grind) fun parameter hparameter => ?_)
    grind

@[grind .]
theorem convention_sound : Sound start convention := by
  unfold convention
  grind

@[grind .]
theorem optionalConvention_sound : Sound start optionalConvention := by
  unfold optionalConvention
  grind

@[grind .]
theorem functionType_sound (h : AreSound g) : Sound start (functionType g) := by
  unfold functionType
  grind

/-! ### Paths and other types -/

@[grind .]
theorem pathType_sound (h : AreSound g) (allowPlus : Bool) {lifetimes : List Token}
    (hlifetimes : AreClean lifetimes) : Sound start (pathType g allowPlus lifetimes) := by
  unfold pathType
  refine .bind (by grind) fun ⟨path, tokens⟩ ⟨hpath, htokens⟩ => ?_
  cases path with
  | none => exact .pure ⟨areClean_append hlifetimes htokens, trivial⟩
  | some p =>
    have hp : AreClean p.tokens := hpath p rfl
    refine .bind (sees_sound _) fun isMacro _ => .ite (by grind) ?_
    refine .bind (sees_sound _) fun isSum _ => .ite ?_ (.pure ⟨htokens, hp⟩)
    have hfirst := areClean_append hlifetimes htokens
    grind

@[grind .]
theorem bracketType_sound (h : AreSound g) : Sound start (bracketType g) := by
  have hlength : ∀ ts, Sound ts (join [mark ";", do return (← g.expression true).tokens]) := by
    grind
  unfold bracketType
  grind

@[grind .]
theorem pointerType_sound (h : AreSound g) : Sound start (pointerType g) := by
  unfold pointerType
  grind

@[grind .]
theorem referenceType_sound (h : AreSound g) : Sound start (referenceType g) := by
  unfold referenceType
  grind

@[grind .]
theorem dynamicType_sound (h : AreSound g) (allowPlus : Bool) :
    Sound start (dynamicType g allowPlus) := by
  unfold dynamicType
  grind

/-- A type is read from clean tokens and has clean tokens. -/
theorem type_sound (h : AreSound g) (allowPlus : Bool) : Sound start (type g allowPlus) := by
  unfold type
  refine .bind (by grind) fun lifetimes hlifetimes => ?_
  extract_lets next
  have hnext : ∀ u, Sound start (next u) := by
    intro u
    iterate 11 refine .whether (by grind) ?_
    exact .failure
  clear_value next
  grind

/-! ### Generic parameters and conditions -/

instance : Tidy Generics := ⟨fun g => AreClean g.tokens⟩

@[grind =]
theorem tidy_generics (g : Generics) : tidy g = AreClean g.tokens := rfl

@[grind .]
theorem genericParameters_sound (h : AreSound g) : Sound start (genericParameters g) := by
  unfold genericParameters
  grind

@[grind .]
theorem optionalGenerics_sound (h : AreSound g) : Sound start (optionalGenerics g) := by
  unfold optionalGenerics
  grind

@[grind .]
theorem condition_sound (h : AreSound g) : Sound start (condition g) := by
  unfold condition
  grind

@[grind .]
theorem conditions_sound (h : AreSound g) : Sound start (conditions g) := by
  unfold conditions
  grind

@[grind .]
theorem optionalConditions_sound (h : AreSound g) : Sound start (optionalConditions g) := by
  unfold optionalConditions
  grind

end EnumCompanion.Grammar
