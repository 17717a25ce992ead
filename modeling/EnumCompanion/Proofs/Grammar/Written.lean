import EnumCompanion.Proofs.Grammar.Items

/-!
# `EnumCompanion.Proofs.Grammar.Written`: no type is empty

What a rule gives may have more to it than clean tokens. `Gives` is for any
property of the values; a rule is put together from others, and the lemmas
for the combinators follow those for `Sound`.

The first property is that something is written: a type has a token at
least, and so has a bound on a type. The two lean on each other, and a type
is a matter of one level of the grammar given those below, so that
`areWritten_grammar` is an induction on the depth.

* `Gives.bind` and its like: the combinators.
* `Further`: a rule of which a token has been read already. What it keeps
  as it was written is not empty.
* `type_gives` and `bound_gives`: one level of the grammar.
-/

set_option autoImplicit false

namespace EnumCompanion.Grammar

open EnumCompanion.Token
open Rule

variable {α β : Type} {start : List Token} {P : α → Prop} {Q : β → Prop}

/-! ### Properties of values -/

/-- A rule whose values have a property, at any point that clean tokens were
read up to since `start`. -/
def Gives (start : List Token) (P : α → Prop) (r : Rule α) : Prop :=
  ∀ ts a rest, AreClean start → Reads start ts → r ts = some (a, rest) → P a

/-- A rule goes on from a value with a property. -/
theorem Gives.bind [Tidy α] {r : Rule α} {f : α → Rule β} (h : Gives start P r)
    (hr : Sound start r) (hf : ∀ a, tidy a → P a → Gives start Q (f a)) :
    Gives start Q (r >>= f) := by
  intro ts b rest hstart hts hrun
  obtain ⟨a, middle, hfirst, hrest⟩ := bind_eq_some hrun
  obtain ⟨hmiddle, ha⟩ := hr ts a middle hstart hts hfirst
  exact hf a ha (h ts a middle hstart hts hfirst) middle b rest hstart (hts.trans hmiddle) hrest

/-- A rule goes on from a value of which nothing more is known. -/
theorem Gives.after [Tidy α] {r : Rule α} {f : α → Rule β} (hr : Sound start r)
    (hf : ∀ a, tidy a → Gives start Q (f a)) : Gives start Q (r >>= f) :=
  .bind (P := fun _ => True) (fun _ _ _ _ _ _ => trivial) hr fun a ha _ => hf a ha

/-- What follows a value with a property may be left alone if it does not
matter. -/
theorem Gives.map {r : Rule α} {f : α → β} (h : Gives start P r) (hf : ∀ a, P a → Q (f a)) :
    Gives start Q (r >>= fun a => Pure.pure (f a)) := by
  intro ts b rest hstart hts hrun
  obtain ⟨a, middle, hfirst, hrest⟩ := bind_eq_some hrun
  obtain ⟨rfl, -⟩ := Prod.mk.inj (Option.some.inj hrest)
  exact hf a (h ts a middle hstart hts hfirst)

/-- What is given in the end may have the property whatever came before. -/
theorem Gives.always {r : Rule α} {f : α → β} (hf : ∀ a, Q (f a)) :
    Gives start Q (r >>= fun a => Pure.pure (f a)) :=
  .map (P := fun _ => True) (fun _ _ _ _ _ _ => trivial) fun a _ => hf a

theorem Gives.pure {a : α} (h : P a) : Gives start P (Pure.pure a : Rule α) := by
  intro ts b rest _ _ hrun
  obtain ⟨rfl, -⟩ := Prod.mk.inj (Option.some.inj hrun)
  exact h

theorem Gives.failure : Gives start P (Alternative.failure : Rule α) := by
  intro ts a rest _ _ hrun
  cases hrun

theorem Gives.ite {p : Prop} [Decidable p] {r r' : Rule α} (h : Gives start P r)
    (h' : Gives start P r') : Gives start P (if p then r else r') := by
  split
  · exact h
  · exact h'

/-- A rule may choose how to go on by what is ahead. -/
theorem Gives.whether {p : Ahead} {r r' : Rule α} (h : Gives start P r) (h' : Gives start P r') :
    Gives start P (Rule.sees p >>= fun answer => if answer = true then r else r') :=
  .after (sees_sound p) fun _ _ => .ite h h'

/-- A rule may fail on a condition and go on otherwise. -/
theorem Gives.unless {p : Prop} [Decidable p] {r : Rule α} (h : Gives start P r) :
    Gives start P (if p then Alternative.failure >>= fun _ : PUnit => r else r) :=
  .ite (fun _ _ _ _ _ hrun => by cases hrun) h

/-- A rule may begin by marking the point that it starts from. -/
theorem Gives.get {f : List Token → Rule α} (h : ∀ ts, Gives ts P (f ts)) :
    Gives start P (MonadState.get >>= f) := by
  intro ts a rest hstart hts hrun
  have hread : f ts ts = some (a, rest) := hrun
  exact h ts ts a rest (hts.areClean hstart) (Reads.refl ts) hread

/-- A rule may depend on the tokens that are left. -/
theorem Gives.look {f : List Token → Rule α} (h : ∀ ts, Gives start P (f ts)) :
    Gives start P (MonadState.get >>= f) := by
  intro ts a rest hstart hts hrun
  have hread : f ts ts = some (a, rest) := hrun
  exact h ts ts a rest hstart hts hread

/-- What a rule gives for the content of a group is given for the group. -/
theorem Gives.inside {d : Delimiter} {r : Rule α} (h : ∀ ts, Gives ts P r) :
    Gives start P (Rule.inside d r) := by
  intro ts a rest hstart hts hrun
  have hclean := hts.areClean hstart
  unfold Rule.inside at hrun
  split at hrun
  next d' us rest' =>
    rw [areClean_group_cons] at hclean
    split at hrun
    next =>
      split at hrun
      next a' hinner =>
        obtain ⟨rfl, -⟩ := Prod.mk.inj (Option.some.inj hrun)
        exact h us us _ [] hclean.1 (Reads.refl us) hinner
      next => cases hrun
    next => cases hrun
  next => cases hrun

/-- Repeating a rule gives values that all have the property. -/
theorem Gives.repeatUntil [Tidy α] {stop : Ahead} {r : Rule α} (hr : Sound start r)
    (h : Gives start P r) : Gives start (fun l => ∀ a ∈ l, P a) (Rule.repeatUntil stop r) := by
  refine .look fun ts => ?_
  generalize ts.length + 1 = n
  induction n with
  | zero => exact .failure
  | succ n ih =>
    unfold Rule.repeatWithin
    refine .whether (.pure (List.forall_mem_nil _)) (h.bind hr fun a _ ha => ih.map fun l hl => ?_)
    exact List.forall_mem_cons.mpr ⟨ha, hl⟩

/-- The same for entries with separators between them. -/
theorem Gives.entriesUntil [Tidy α] {stop : Ahead} {r : Rule α} {separator : Phrase}
    (hr : Sound start r) (hseparator : Sound start separator) (h : Gives start P r) :
    Gives start (fun l => ∀ e ∈ l, P e.value) (Rule.entriesUntil stop r separator) := by
  refine .look fun ts => ?_
  generalize ts.length + 1 = n
  induction n with
  | zero => exact .failure
  | succ n ih =>
    unfold Rule.entriesWithin
    refine .whether (.pure (List.forall_mem_nil _)) (h.bind hr fun a _ ha => .whether (.pure ?_) ?_)
    · exact List.forall_mem_singleton.mpr ha
    · refine .after hseparator fun s _ => ih.map fun l hl => ?_
      exact List.forall_mem_cons.mpr ⟨ha, hl⟩

/-- The same for entries as long as there are more. -/
theorem Gives.chainUntil [Tidy α] {stop more : Ahead} {r : Rule α} {separator : Phrase}
    (hr : Sound start r) (hseparator : Sound start separator) (h : Gives start P r) :
    Gives start (fun l => ∀ e ∈ l, P e.value) (Rule.chainUntil stop r more separator) := by
  refine .look fun ts => ?_
  generalize ts.length + 1 = n
  induction n with
  | zero => exact .failure
  | succ n ih =>
    unfold Rule.chainWithin
    refine .whether (.pure (List.forall_mem_nil _)) (h.bind hr fun a _ ha => .whether ?_ (.pure ?_))
    · refine .after hseparator fun s _ => ih.map fun l hl => ?_
      exact List.forall_mem_cons.mpr ⟨ha, hl⟩
    · exact List.forall_mem_singleton.mpr ha

/-- A question whose answer is always no makes no difference. -/
theorem Gives.of_sees_false {f : Bool → Rule α} (h : Gives start P (f false)) :
    Gives start P (Rule.sees (fun _ => false) >>= f) :=
  h

/-- A chain that nothing stops has an entry. -/
theorem Gives.chain_head [Tidy α] {more : Ahead} {r : Rule α} {separator : Phrase}
    (hr : Sound start r) (hseparator : Sound start separator) (h : Gives start P r) :
    Gives start (fun l => ∃ e ∈ l, P e.value)
      (Rule.chainUntil (fun _ => false) r more separator) := by
  refine .look fun ts => ?_
  unfold Rule.chainWithin
  -- The first entry is there whatever follows it, so no induction is needed.
  refine .of_sees_false (h.bind hr fun a _ ha => .whether ?_ (.pure ⟨_, List.mem_cons_self, ha⟩))
  refine .after hseparator fun s _ => ?_
  exact .always fun _ => ⟨_, List.mem_cons_self, ha⟩

/-! ### Something is written -/

/-- Some token is there. -/
def IsWritten (ts : List Token) : Prop := ts ≠ []

theorem IsWritten.append_left {ts : List Token} (h : IsWritten ts) (us : List Token) :
    IsWritten (ts ++ us) :=
  fun heq => h (List.append_eq_nil_iff.mp heq).1

theorem IsWritten.append_right {us : List Token} (ts : List Token) (h : IsWritten us) :
    IsWritten (ts ++ us) :=
  fun heq => h (List.append_eq_nil_iff.mp heq).2

theorem isWritten_cons (t : Token) (ts : List Token) : IsWritten (t :: ts) :=
  List.cons_ne_nil t ts

theorem IsWritten.flatMap {l : List α} {f : α → List Token} {a : α} (ha : a ∈ l)
    (h : IsWritten (f a)) : IsWritten (l.flatMap f) := by
  intro heq
  exact h (List.flatMap_eq_nil_iff.mp heq a ha)

theorem mark_gives {m : String} (h : m ≠ "") : Gives start IsWritten (Rule.mark m) := by
  intro ts a rest _ _ hrun
  unfold Rule.mark at hrun
  split at hrun
  · obtain ⟨rfl, -⟩ := Prod.mk.inj (Option.some.inj hrun)
    have hchars : m.toList ≠ [] := fun hnil => h (String.toList_inj.mp hnil)
    show Token.marksOf m.toList ≠ []
    obtain ⟨c, cs, hcs⟩ := List.exists_cons_of_ne_nil hchars
    rw [hcs]
    cases cs <;> exact List.cons_ne_nil _ _
  · cases hrun

theorem word_gives (w : String) : Gives start IsWritten (Rule.word w) := by
  intro ts a rest _ _ hrun
  unfold Rule.word at hrun
  split at hrun
  · split at hrun
    · obtain ⟨rfl, -⟩ := Prod.mk.inj (Option.some.inj hrun)
      exact isWritten_cons _ _
    · cases hrun
  · cases hrun

theorem lifetime_gives : Gives start IsWritten Rule.lifetime := by
  intro ts a rest _ _ hrun
  unfold Rule.lifetime at hrun
  split at hrun
  · obtain ⟨rfl, -⟩ := Prod.mk.inj (Option.some.inj hrun)
    exact isWritten_cons _ _
  · cases hrun

theorem enclosed_gives (d : Delimiter) (r : Phrase) :
    Gives start IsWritten (Rule.enclosed d r) :=
  .always fun _ => isWritten_cons _ []

/-- Phrases one after the other write what the first of them writes. -/
theorem Gives.join_head {r : Phrase} {rs : List Phrase} (hr : Sound start r)
    (h : Gives start IsWritten r) : Gives start IsWritten (Rule.join (r :: rs)) :=
  h.bind hr fun _ _ hts =>
    .always fun _ => hts.append_left _

/-- Phrases one after the other write what those behind the first write. -/
theorem Gives.join_tail {r : Phrase} {rs : List Phrase} (hr : Sound start r)
    (h : Gives start IsWritten (Rule.join rs)) : Gives start IsWritten (Rule.join (r :: rs)) :=
  .after hr fun ts _ => h.map fun _ hus => hus.append_right ts

/-! ### What was read since a point -/

/-- A rule whose values have a property once a token was read since
`start`. -/
def Further (start : List Token) (P : α → Prop) (r : Rule α) : Prop :=
  ∀ ts a rest, AreClean start → Reads start ts → ts.length < start.length →
    r ts = some (a, rest) → P a

theorem Further.map {r : Rule α} {f : α → β} (h : Further start P r) (hf : ∀ a, P a → Q (f a)) :
    Further start Q (r >>= fun a => Pure.pure (f a)) := by
  intro ts b rest hstart hts hlt hrun
  obtain ⟨a, middle, hfirst, hrest⟩ := bind_eq_some hrun
  obtain ⟨rfl, -⟩ := Prod.mk.inj (Option.some.inj hrest)
  exact hf a (h ts a middle hstart hts hlt hfirst)

theorem Gives.further {r : Rule α} (h : Gives start P r) : Further start P r :=
  fun ts a rest hstart hts _ hrun => h ts a rest hstart hts hrun

theorem Further.bind [Tidy α] {r : Rule α} {f : α → Rule β} (hr : Sound start r)
    (hf : ∀ a, tidy a → Further start Q (f a)) : Further start Q (r >>= f) := by
  intro ts b rest hstart hts hlt hrun
  obtain ⟨a, middle, hfirst, hrest⟩ := bind_eq_some hrun
  obtain ⟨hmiddle, ha⟩ := hr ts a middle hstart hts hfirst
  exact hf a ha middle b rest hstart (hts.trans hmiddle)
    (Nat.lt_of_le_of_lt hmiddle.length_le hlt) hrest

theorem Further.ite {p : Prop} [Decidable p] {r r' : Rule α} (h : Further start P r)
    (h' : Further start P r') : Further start P (if p then r else r') := by
  split
  · exact h
  · exact h'

/-- A proper rule reads a token. -/
theorem Gives.proper [Tidy α] {r : Rule α} {f : α → Rule β} (hr : Proper start r)
    (h : Gives start P r) (hf : ∀ a, tidy a → P a → Further start Q (f a)) :
    Gives start Q (r >>= f) := by
  intro ts b rest hstart hts hrun
  obtain ⟨a, middle, hfirst, hrest⟩ := bind_eq_some hrun
  obtain ⟨hmiddle, ha, hlt⟩ := hr ts a middle hstart hts hfirst
  exact hf a ha (h ts a middle hstart hts hfirst) middle b rest hstart (hts.trans hmiddle)
    (Nat.lt_of_lt_of_le hlt hts.length_le) hrest

theorem since_further : Further start IsWritten (Rule.since start) := by
  intro ts a rest _ _ hlt hrun
  obtain ⟨rfl, -⟩ := Prod.mk.inj (Option.some.inj hrun)
  intro heq
  have hlength := congrArg List.length heq
  rw [List.length_take, List.length_nil] at hlength
  omega

/-! ### Paths -/

variable {g : Rules}

/-- A name in a path is written. -/
theorem segment_gives (inExpression : Bool) :
    Gives start (fun s => IsWritten s.2) (segment g inExpression) := by
  unfold segment
  refine .whether (.after anyWord_sound fun i _ => .pure (isWritten_cons _ _)) ?_
  refine .after (sees_sound _) fun isSelf _ => ?_
  extract_lets next
  have hnext : ∀ i, Gives start (fun s => IsWritten s.2) (next i) := by
    intro i
    refine .whether (.after (optionalMark_sound (by grind)) fun colons _ => .look fun ts => ?_)
      (.pure (isWritten_cons _ _))
    exact .always fun _ => isWritten_cons _ _
  exact .ite (.after anyWord_sound fun i _ => hnext i) (.after name_sound fun i _ => hnext i)

theorem isWritten_pathOf {first : List Token} {entries : List (Entry (Segment × List Token))}
    (h : ∃ e ∈ entries, IsWritten e.value.2) : IsWritten (pathOf first entries).tokens := by
  obtain ⟨e, he, hwritten⟩ := h
  exact IsWritten.append_right _ (.flatMap he (hwritten.append_left _))

theorem segments_gives (h : AreSound g) (inExpression : Bool) (more : Ahead) :
    Gives start (fun l => ∃ e ∈ l, IsWritten e.value.2) (segments g inExpression more) :=
  .chain_head (segment_sound h inExpression) (mark_sound (by grind)) (segment_gives inExpression)

theorem path_gives (h : AreSound g) (inExpression : Bool) :
    Gives start (fun p => IsWritten p.tokens) (path g inExpression) := by
  unfold path
  exact .after (optionalMark_sound (by grind)) fun first _ =>
    (segments_gives h inExpression _).map fun entries => isWritten_pathOf

theorem qualifiedPath_gives (h : AreSound g) (inExpression : Bool) :
    Gives start (fun p => IsWritten p.2) (qualifiedPath g inExpression) := by
  unfold qualifiedPath
  refine .whether (.after (qualifier_proper h).sound fun first _ => ?_) ?_
  · exact (segments_gives h inExpression _).map fun entries hentries =>
      (isWritten_pathOf hentries).append_right _
  · exact (path_gives h inExpression).map fun p hp => hp

/-! ### Bounds -/

/-- The circle of rules gives types and bounds that are written. -/
structure AreWritten (g : Rules) : Prop where
  type : ∀ start allowPlus, Gives start (fun t => IsWritten t.tokens) (g.type allowPlus)
  bound : ∀ start allowCaptures allowConstant,
    Gives start (fun b => IsWritten b.tokens) (g.bound allowCaptures allowConstant)

/-- The last name of a path is written without its brackets too. -/
theorem exists_withoutAngles {entries : List (Entry (Segment × List Token))}
    (h : ∃ e ∈ entries, IsWritten e.value.2) :
    ∃ e ∈ withoutAngles entries, IsWritten e.value.2 := by
  obtain ⟨e, he, hwritten⟩ := h
  refine ⟨_, List.mem_map_of_mem he, ?_⟩
  split
  · exact isWritten_cons _ _
  · exact hwritten

theorem traitPath_proper (h : AreSound g) : Proper start (traitPath g) := by
  unfold traitPath
  refine .after (optionalMark_sound (by grind)) fun first hfirst => ?_
  refine (segments_proper h false _).bind fun entries hentries => ?_
  refine .bind (sees_sound _) fun isFunction _ => .ite ?_ (by grind)
  refine .bind (optionalMark_sound (by grind)) fun colons _ => ?_
  grind

theorem traitPath_gives (h : AreSound g) : Gives start IsWritten (traitPath g) := by
  unfold traitPath
  refine .after (optionalMark_sound (by grind)) fun first _ => ?_
  refine (segments_gives h false _).bind (segments_sound h false _) fun entries _ hentries => ?_
  refine .after (sees_sound _) fun isFunction _ => .ite ?_ (.pure (isWritten_pathOf hentries))
  refine .after (optionalMark_sound (by grind)) fun colons _ => ?_
  exact .always fun _ =>
    (isWritten_pathOf (exists_withoutAngles hentries)).append_left _

/-- A trait bound is a token at least. -/
theorem traitBound_proper (h : AreSound g) (allowConstant : Bool) :
    Proper start (traitBound g allowConstant) := by
  unfold traitBound
  refine .after (optionalBinder_sound h) fun before hbefore => ?_
  refine .after constantMark_sound fun constant hconstant => ?_
  extract_lets next
  have hnext : ∀ u, Proper start (next u) := by
    intro u
    refine .after (optionalMark_sound (by grind)) fun maybe hmaybe => ?_
    extract_lets afterBinder
    have hafter : ∀ after, AreClean after → Proper start (afterBinder after) := by
      intro after hafter
      refine (traitPath_proper h).bind fun path hpath => ?_
      grind
    exact .ite (.after (optionalBinder_sound h) hafter) (.after (.pure areClean_nil) hafter)
  exact .ite (.after Sound.failure fun u _ => hnext u) (hnext ⟨⟩)

/-- A trait bound is written. -/
theorem traitBound_gives (h : AreSound g) (allowConstant : Bool) :
    Gives start (fun b => IsWritten b.2) (traitBound g allowConstant) := by
  unfold traitBound
  refine .after (optionalBinder_sound h) fun before _ => ?_
  refine .after constantMark_sound fun constant _ => ?_
  refine .unless (.after (optionalMark_sound (by grind)) fun maybe _ => ?_)
  extract_lets afterBinder
  -- A bound may begin with marks that are left out; it is written by its path.
  have hafter : ∀ after, Gives start (fun b => IsWritten b.2) (afterBinder after) := by
    intro after
    refine (traitPath_gives h).bind (traitPath_sound h) fun path _ hpath => .unless (.pure ?_)
    exact hpath.append_right _
  exact .ite (.after (optionalBinder_sound h) fun after _ => hafter after) (hafter [])

/-- A bound is written if it stands alone, if it stands in parentheses, and if
it is kept as it was. -/
theorem bound_gives (h : AreSound g) (allowCaptures allowConstant : Bool) :
    Gives start (fun b => IsWritten b.tokens) (bound g allowCaptures allowConstant) := by
  unfold bound
  refine .whether (lifetime_gives.map fun ts hts => hts) (.whether ?_ (.get fun ts => ?_))
  · have hcaptures : Gives start IsWritten captures := .join_head (word_sound _) (word_gives _)
    exact hcaptures.bind captures_sound fun ts _ hts => .ite (.pure hts) .failure
  · refine .after (sees_sound _) fun isEnclosed _ => ?_
    extract_lets next
    have hnext : ∀ b, IsWritten b.2 → Further ts (fun b => IsWritten b.tokens) (next b) := by
      intro ⟨isConstant, inner⟩ hinner
      refine .ite ?_ (Gives.pure ?_).further
      · -- What is kept as it was written has been read since.
        exact since_further.map fun written hwritten => hwritten
      · show IsWritten (if isEnclosed = true then _ else inner)
        split
        · exact isWritten_cons _ _
        · exact hinner
    refine .ite ?_ ?_
    · exact .proper (inside_proper fun us => traitBound_sound h allowConstant)
        (.inside fun us => traitBound_gives h allowConstant) fun b _ hb => hnext b hb
    · exact .proper (traitBound_proper h allowConstant) (traitBound_gives h allowConstant)
        fun b _ hb => hnext b hb

/-! ### Types -/

/-- Bounds of which one is a trait are written. -/
theorem traitBounds_gives (h : AreSound g) (hg : AreWritten g)
    (allowPlus allowCaptures allowConstant : Bool) :
    Gives start IsWritten (traitBounds g allowPlus allowCaptures allowConstant) := by
  have hbounds : Gives start (fun l => ∀ e ∈ l, IsWritten e.value.tokens)
      (bounds g allowPlus allowCaptures allowConstant) :=
    .chainUntil (h.bound start _ _) (mark_sound (by grind)) (hg.bound start _ _)
  unfold traitBounds
  refine hbounds.bind (bounds_sound h _ _ _) fun entries _ hentries => ?_
  intro ts a rest hstart hts hrun
  split at hrun
  next hany =>
    obtain ⟨rfl, -⟩ := Prod.mk.inj (Option.some.inj hrun)
    obtain ⟨e, he, -⟩ := List.any_eq_true.mp hany
    exact .flatMap he ((hentries e he).append_left _)
  next => cases hrun

theorem plainType_gives {r : Phrase} (h : Gives start IsWritten r) :
    Gives start (fun t => IsWritten t.tokens) (plainType r) :=
  h.map fun _ hts => hts

theorem parenthesizedSum_gives (inner : List Token) :
    Gives start (fun t => IsWritten t.tokens) (parenthesizedSum g inner) :=
  .always fun _ => isWritten_cons _ _

/-- A type in parentheses has the parentheses. -/
theorem parenthesizedType_gives (h : AreSound g) (allowPlus : Bool) :
    Gives start (fun t => IsWritten t.tokens) (parenthesizedType g allowPlus) := by
  unfold parenthesizedType
  refine .after (inside_sound fun ts => parenthesized_sound h) fun content _ => ?_
  cases content with
  | closed ts => exact .pure (isWritten_cons _ _)
  | bound inner => exact parenthesizedSum_gives inner
  | type t =>
    have hclosed : Gives start (fun t => IsWritten t.tokens)
        (Pure.pure ⟨Token.enclosed .parenthesis t.tokens, .other⟩ : Rule TypeTree) :=
      .pure (isWritten_cons _ _)
    refine .after (sees_sound _) fun isSum _ => .ite ?_ hclosed
    cases t.shape with
    | path p => exact parenthesizedSum_gives p.tokens
    | bound inner => exact parenthesizedSum_gives inner
    | other => exact hclosed

theorem functionType_gives : Gives start IsWritten (functionType g) :=
  .join_tail (by grind) (.join_tail (by grind) (.join_head (word_sound _) (word_gives _)))

theorem pathType_gives (h : AreSound g) (allowPlus : Bool) (lifetimes : List Token) :
    Gives start (fun t => IsWritten t.tokens) (pathType g allowPlus lifetimes) := by
  unfold pathType
  refine (qualifiedPath_gives h false).bind (qualifiedPath_sound h false) ?_
  intro ⟨path, tokens⟩ _ htokens
  cases path with
  | none => exact .pure (htokens.append_right _)
  | some p =>
    -- Calls of macros and sums of bounds begin with the path.
    refine .after (sees_sound _) fun isMacro _ => .ite ?_ ?_
    · exact .always fun _ =>
        htokens.append_left _
    · refine .after (sees_sound _) fun isSum _ => .ite ?_ (.pure htokens)
      extract_lets first next
      have hnext : ∀ more, Gives start (fun t => IsWritten t.tokens) (next more) := fun more =>
        .pure ((htokens.append_right lifetimes).append_left more)
      exact .ite (.after (looseSum_sound h) fun more _ => hnext more) (hnext [])

theorem pointerType_gives : Gives start IsWritten (pointerType g) := by
  unfold pointerType
  refine (mark_gives (by decide)).bind (mark_sound (by grind)) fun star _ hstar => ?_
  refine .after (sees_sound _) fun isConstant _ => ?_
  extract_lets next
  have hnext : ∀ access, Gives start IsWritten (next access) := fun access =>
    .always fun _ =>
      (hstar.append_left _).append_left _
  exact .ite (.after (word_sound _) fun access _ => hnext access)
    (.after (word_sound _) fun access _ => hnext access)

/-- A type told at run time has the word for it. -/
theorem dynamicType_gives (h : AreSound g) (allowPlus : Bool) :
    Gives start IsWritten (dynamicType g allowPlus) := by
  unfold dynamicType
  -- With the word read, what is kept since the start of the type is not empty.
  refine .get fun ts => .proper (word_proper _) (word_gives _) fun head _ hhead => ?_
  refine .bind (optionalMark_sound (by grind)) fun star _ => ?_
  refine .bind (traitBounds_sound h _ _ _) fun bounds _ => .ite ?_ since_further
  exact (Gives.pure (hhead.append_left _)).further

/-- One level of the grammar gives types that are written. -/
theorem type_gives (h : AreSound g) (hg : AreWritten g) (allowPlus : Bool) :
    Gives start (fun t => IsWritten t.tokens) (type g allowPlus) := by
  unfold type
  refine .after (optionalBinder_sound h) fun lifetimes _ => ?_
  extract_lets next
  have hnext : ∀ u, Gives start (fun t => IsWritten t.tokens) (next u) := by
    intro u
    refine .whether (parenthesizedType_gives h allowPlus) (.whether ?_ (.whether ?_ ?_))
    · exact plainType_gives (functionType_gives.map fun ts hts => hts.append_right _)
    · exact pathType_gives h allowPlus lifetimes
    refine .whether (plainType_gives (dynamicType_gives h allowPlus)) ?_
    refine .whether (plainType_gives (enclosed_gives _ _)) (.whether ?_ (.whether ?_ ?_))
    · exact plainType_gives pointerType_gives
    · exact plainType_gives (.join_head (mark_sound (by grind)) (mark_gives (by decide)))
    refine .whether (plainType_gives (mark_gives (by decide))) (.whether ?_ (.whether ?_ ?_))
    · exact plainType_gives (.join_head (word_sound _) (word_gives _))
    · exact plainType_gives (word_gives _)
    · exact .whether (plainType_gives (traitBounds_gives h hg true false false)) .failure
  exact .ite (.after (expects_sound _) fun u _ => hnext u) (hnext ⟨⟩)

/-! ### The grammar -/

theorem areWritten_none : AreWritten Rules.none where
  type _ _ := .failure
  bound _ _ _ := .failure

/-- The grammar gives types that are written, at any depth. -/
theorem areWritten_grammar (n : Nat) : AreWritten (grammar n) := by
  induction n with
  | zero => exact areWritten_none
  | succ n ih =>
    exact {
      type := fun _ allowPlus => type_gives (areSound_grammar n) ih allowPlus
      bound := fun _ allowCaptures allowConstant =>
        bound_gives (areSound_grammar n) allowCaptures allowConstant }

end EnumCompanion.Grammar
