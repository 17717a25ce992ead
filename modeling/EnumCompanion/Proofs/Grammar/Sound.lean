import EnumCompanion.Proofs.Token.Clean
import EnumCompanion.Grammar

/-!
# `EnumCompanion.Proofs.Grammar.Sound`: rules read and give clean tokens

A rule that is given clean tokens reads clean tokens, leaves clean tokens,
and gives a value in which all tokens are clean. Rules are put together
from few combinators, and there is one lemma here for each of them.

Two things make this more than a fact about lists. A rule may give what it
has read as it was written; so what it has read has to be clean by itself,
and may not end in the middle of a lifetime or of an operator. And an
operator may be read where a longer one is: a rule that reads `/` off the
front of `/&` leaves a slash that is joint to nothing it has read. Only
expressions do that, and what they read next is never empty; `Proper` is
for the rules of which this is used.

* `Reads`: clean tokens that were read.
* `Sound` and `Proper`: rules that read clean tokens, and at least one.
* `Ends`: rules that may go back to where they started.
* `Sound.bind`, `inside_sound`, `repeatUntil_sound` and their like: the
  combinators.

The lemmas for combinators and for clean lists are tagged for `grind`. So a
rule that is put together from few of them is sound by unfolding it once;
in a longer one the first steps are taken by hand.
-/

set_option autoImplicit false

namespace EnumCompanion

open EnumCompanion.Token

/-! ### Clean parts of clean lists -/

namespace Token

/-- A token that something has to follow. -/
def Hangs (t : Token) : Prop :=
  (∃ s, t = .punct '\'' s) ∨ t = .punct '/' .joint

/-- What holds a token before more tokens holds it without them, unless it
hangs. -/
theorem Holds.of_append {t : Token} {ts us : List Token} (h : t.Holds (ts ++ us))
    (hts : ts ≠ [] ∨ ¬ t.Hangs) : t.Holds ts := by
  cases ts with
  | nil =>
    have hhangs := hts.resolve_left (fun hne => hne rfl)
    exact ⟨fun s hs => absurd (Or.inl ⟨s, hs⟩) hhangs, fun hs => absurd (Or.inr hs) hhangs⟩
  | cons u ts => cases u <;> exact h

/-- The front of a clean list is clean, unless it ends in a token that
hangs. -/
theorem AreClean.of_append {ts r : List Token} (h : AreClean (ts ++ r))
    (hlast : ∀ t ∈ ts.getLast?, ¬ t.Hangs) : AreClean ts := by
  induction ts with
  | nil => trivial
  | cons t ts ih =>
    rw [List.cons_append, AreClean] at h
    rw [AreClean]
    cases ts with
    | nil => exact ⟨h.1, h.2.1.of_append (Or.inr (hlast t rfl)), trivial⟩
    | cons u ts =>
      have hrest : ∀ t ∈ (u :: ts).getLast?, ¬ t.Hangs := by
        rw [List.getLast?_cons_cons] at hlast
        exact hlast
      exact ⟨h.1, h.2.1.of_append (Or.inl (List.cons_ne_nil u ts)), ih h.2.2 hrest⟩

/-- A clean list does not end in a token that hangs. -/
theorem AreClean.not_hangs {ts : List Token} (h : AreClean ts) :
    ∀ t ∈ ts.getLast?, ¬ t.Hangs := by
  induction ts with
  | nil => exact nofun
  | cons t ts ih =>
    rw [AreClean] at h
    cases ts with
    | nil =>
      intro u hu hhangs
      obtain rfl := Option.some.inj hu
      rcases hhangs with ⟨s, hs⟩ | hs
      · exact h.2.1.1 s hs
      · exact h.2.1.2 hs
    | cons u ts =>
      rw [List.getLast?_cons_cons]
      exact ih h.2.2

end Token

namespace Grammar

/-! ### What was read -/

/-- Clean tokens were read between two points. -/
def Reads (start rest : List Token) : Prop :=
  ∃ read, start = read ++ rest ∧ AreClean read

/-- Nothing was read. -/
theorem Reads.refl (ts : List Token) : Reads ts ts :=
  ⟨[], rfl, trivial⟩

/-- What was read on the way is read in all. -/
theorem Reads.trans {start ts rest : List Token} (h : Reads start ts) (h' : Reads ts rest) :
    Reads start rest := by
  obtain ⟨read, rfl, hread⟩ := h
  obtain ⟨read', rfl, hread'⟩ := h'
  exact ⟨read ++ read', (List.append_assoc _ _ _).symm, areClean_append hread hread'⟩

/-- What is left is clean. -/
theorem Reads.areClean {start rest : List Token} (h : Reads start rest) (hstart : AreClean start) :
    AreClean rest := by
  obtain ⟨read, rfl, -⟩ := h
  exact hstart.suffix

/-- No more is left than there was. -/
theorem Reads.length_le {start rest : List Token} (h : Reads start rest) :
    rest.length ≤ start.length := by
  obtain ⟨read, rfl, -⟩ := h
  rw [List.length_append]
  omega

/-! ### Values with tokens -/

/-- The types of what rules give; a value is tidy if all tokens in it that
rules go on with are clean. -/
class Tidy (α : Type) where
  tidy : α → Prop

export Tidy (tidy)

instance : Tidy Unit := ⟨fun _ => True⟩
instance : Tidy Bool := ⟨fun _ => True⟩
instance : Tidy String := ⟨fun _ => True⟩
instance : Tidy Ident := ⟨Ident.IsLexed⟩
instance : Tidy (List Token) := ⟨AreClean⟩
instance {α : Type} [Tidy α] : Tidy (Option α) := ⟨fun o => ∀ a ∈ o, tidy a⟩
instance {α β : Type} [Tidy α] [Tidy β] : Tidy (α × β) := ⟨fun p => tidy p.1 ∧ tidy p.2⟩
instance {α : Type} [Tidy α] : Tidy (List α) := ⟨fun l => ∀ a ∈ l, tidy a⟩
instance {α : Type} [Tidy α] : Tidy (Rule.Entry α) :=
  ⟨fun e => tidy e.value ∧ AreClean e.separator⟩
instance : Tidy Segment := ⟨fun s => s.name.IsLexed⟩
instance : Tidy Path := ⟨fun p => AreClean p.tokens⟩
instance : Tidy AngledEntry := ⟨fun e => AreClean e.tokens⟩
instance : Tidy Attribute := ⟨fun a => AreClean a.tokens⟩
instance : Tidy TypeShape := ⟨fun
  | .path p => AreClean p.tokens
  | .bound inner => AreClean inner
  | .other => True⟩
instance : Tidy TypeTree := ⟨fun t => AreClean t.tokens ∧ tidy t.shape⟩
instance : Tidy Bound := ⟨fun b => AreClean b.tokens ∧ AreClean b.inner⟩
instance : Tidy Pattern := ⟨fun p => AreClean p.tokens⟩
instance : Tidy Expr := ⟨fun e => AreClean e.tokens⟩
instance : Tidy Item := ⟨fun i => AreClean i.tokens⟩

variable {α β : Type} {start : List Token}

/-- The step of a rule that goes on with another. -/
theorem bind_eq_some {r : Rule α} {f : α → Rule β} {ts rest : List Token} {b : β}
    (h : (r >>= f) ts = some (b, rest)) :
    ∃ a middle, r ts = some (a, middle) ∧ f a middle = some (b, rest) := by
  obtain ⟨⟨a, middle⟩, hr, hf⟩ := Option.bind_eq_some_iff.mp h
  exact ⟨a, middle, hr, hf⟩

variable [Tidy α] [Tidy β]

/-! ### Sound rules -/

/-- A rule that reads clean tokens and gives a tidy value, at any point that
clean tokens were read up to since `start`. -/
def Sound (start : List Token) (r : Rule α) : Prop :=
  ∀ ts a rest, AreClean start → Reads start ts → r ts = some (a, rest) → Reads ts rest ∧ tidy a

/-- A sound rule that reads a token at least. -/
def Proper (start : List Token) (r : Rule α) : Prop :=
  ∀ ts a rest, AreClean start → Reads start ts → r ts = some (a, rest) →
    Reads ts rest ∧ tidy a ∧ rest.length < ts.length

/-- A proper rule is sound. -/
theorem Proper.sound {r : Rule α} (h : Proper start r) : Sound start r :=
  fun ts a rest hstart hts hr =>
    have hread := h ts a rest hstart hts hr
    ⟨hread.1, hread.2.1⟩

/-- A sound rule may go on with sound rules. -/
theorem Sound.bind {r : Rule α} {f : α → Rule β} (h : Sound start r)
    (hf : ∀ a, tidy a → Sound start (f a)) : Sound start (r >>= f) := by
  intro ts b rest hstart hts hrun
  obtain ⟨a, middle, hr, hrest⟩ := bind_eq_some hrun
  obtain ⟨hmiddle, ha⟩ := h ts a middle hstart hts hr
  obtain ⟨hread, hb⟩ := hf a ha middle b rest hstart (hts.trans hmiddle) hrest
  exact ⟨hmiddle.trans hread, hb⟩

/-- A proper rule is so with whatever it goes on with. -/
theorem Proper.bind {r : Rule α} {f : α → Rule β} (h : Proper start r)
    (hf : ∀ a, tidy a → Sound start (f a)) : Proper start (r >>= f) := by
  intro ts b rest hstart hts hrun
  obtain ⟨a, middle, hr, hrest⟩ := bind_eq_some hrun
  obtain ⟨hmiddle, ha, hlt⟩ := h ts a middle hstart hts hr
  obtain ⟨hread, hb⟩ := hf a ha middle b rest hstart (hts.trans hmiddle) hrest
  exact ⟨hmiddle.trans hread, hb, Nat.lt_of_le_of_lt hread.length_le hlt⟩

/-- A sound rule that goes on with proper rules is proper. -/
theorem Proper.after {r : Rule α} {f : α → Rule β} (h : Sound start r)
    (hf : ∀ a, tidy a → Proper start (f a)) : Proper start (r >>= f) := by
  intro ts b rest hstart hts hrun
  obtain ⟨a, middle, hr, hrest⟩ := bind_eq_some hrun
  obtain ⟨hmiddle, ha⟩ := h ts a middle hstart hts hr
  obtain ⟨hread, hb, hlt⟩ := hf a ha middle b rest hstart (hts.trans hmiddle) hrest
  exact ⟨hmiddle.trans hread, hb, Nat.lt_of_lt_of_le hlt hmiddle.length_le⟩

/-- A value that is tidy can be given. -/
theorem Sound.pure {a : α} (h : tidy a) : Sound start (pure a : Rule α) := by
  intro ts b rest _ _ hrun
  obtain ⟨rfl, rfl⟩ := Prod.mk.inj (Option.some.inj hrun)
  exact ⟨Reads.refl _, h⟩

/-- A rule that fails reads nothing that is not clean. -/
@[grind .]
theorem Proper.failure : Proper start (failure : Rule α) := by
  intro ts a rest _ _ hrun
  cases hrun

@[grind .]
theorem Sound.failure : Sound start (failure : Rule α) :=
  Proper.failure.sound

/-- A rule may begin by marking the point that it starts from. -/
theorem Sound.get {f : List Token → Rule α} (h : ∀ ts, Sound ts (f ts)) :
    Sound start (get >>= f) := by
  intro ts a rest hstart hts hrun
  have hread : f ts ts = some (a, rest) := hrun
  exact h ts ts a rest (hts.areClean hstart) (Reads.refl ts) hread

/-- The same for proper rules. -/
theorem Proper.get {f : List Token → Rule α} (h : ∀ ts, Proper ts (f ts)) :
    Proper start (get >>= f) := by
  intro ts a rest hstart hts hrun
  have hread : f ts ts = some (a, rest) := hrun
  exact h ts ts a rest (hts.areClean hstart) (Reads.refl ts) hread

/-- A choice of rules is sound if both are. -/
theorem Sound.ite {p : Prop} [Decidable p] {r r' : Rule α} (h : Sound start r)
    (h' : Sound start r') : Sound start (if p then r else r') := by
  split
  · exact h
  · exact h'

/-- A choice of rules is proper if both are. -/
theorem Proper.ite {p : Prop} [Decidable p] {r r' : Rule α} (h : Proper start r)
    (h' : Proper start r') : Proper start (if p then r else r') := by
  split
  · exact h
  · exact h'

grind_pattern Sound.bind => Sound start (r >>= f)
grind_pattern Sound.pure => Sound start (Pure.pure a : Rule α)
grind_pattern Sound.get => Sound start (MonadState.get >>= f)

/-! ### Tidy values -/

@[grind =]
theorem tidy_tokens (ts : List Token) : tidy ts = AreClean ts := rfl

@[grind =]
theorem tidy_ident (i : Ident) : tidy i = i.IsLexed := rfl

@[grind =]
theorem tidy_prod (p : α × β) : tidy p = (tidy p.1 ∧ tidy p.2) := rfl

@[grind =]
theorem tidy_entry (e : Rule.Entry α) : tidy e = (tidy e.value ∧ AreClean e.separator) := rfl

@[grind =]
theorem tidy_segment (s : Segment) : tidy s = s.name.IsLexed := rfl

@[grind =]
theorem tidy_path (p : Path) : tidy p = AreClean p.tokens := rfl

@[grind =]
theorem tidy_angledEntry (e : AngledEntry) : tidy e = AreClean e.tokens := rfl

@[grind =]
theorem tidy_attribute (a : Attribute) : tidy a = AreClean a.tokens := rfl

@[grind =]
theorem tidy_type (t : TypeTree) : tidy t = (AreClean t.tokens ∧ tidy t.shape) := rfl

@[grind =]
theorem tidy_shape_path (p : Path) : tidy (TypeShape.path p) = AreClean p.tokens := rfl

@[grind =]
theorem tidy_shape_bound (inner : List Token) : tidy (TypeShape.bound inner) = AreClean inner := rfl

@[grind .]
theorem tidy_shape_other : tidy TypeShape.other := trivial

@[grind =]
theorem tidy_bound (b : Bound) : tidy b = (AreClean b.tokens ∧ AreClean b.inner) := rfl

@[grind =]
theorem tidy_pattern (p : Pattern) : tidy p = AreClean p.tokens := rfl

@[grind =]
theorem tidy_expr (e : Expr) : tidy e = AreClean e.tokens := rfl

@[grind =]
theorem tidy_item (i : Item) : tidy i = AreClean i.tokens := rfl

@[grind .]
theorem tidy_bool (b : Bool) : tidy b := trivial

@[grind =]
theorem tidy_some (a : α) : tidy (some a) = tidy a := by simp [tidy]

@[grind .]
theorem tidy_none : tidy (none : Option α) := nofun

@[grind .]
theorem tidy_nil : tidy ([] : List α) := nofun

@[grind =]
theorem tidy_cons (a : α) (l : List α) : tidy (a :: l) = (tidy a ∧ tidy l) := by simp [tidy]

attribute [grind .] areClean_append

@[grind .]
theorem areClean_nil : AreClean [] := trivial

@[grind =]
theorem areClean_ident_cons (i : Ident) (ts : List Token) :
    AreClean (.ident i :: ts) = (i.IsLexed ∧ AreClean ts) := by
  simp [AreClean, IsClean, Holds]

@[grind =]
theorem areClean_group_cons (d : Delimiter) (ts us : List Token) :
    AreClean (.group d ts :: us) = (AreClean ts ∧ AreClean us) := by
  simp [AreClean, IsClean, Holds]

@[grind =]
theorem areClean_literal_cons (s : String) (ts : List Token) :
    AreClean (.literal s :: ts) = (IsLiteral s ∧ AreClean ts) := by
  simp [AreClean, IsClean, Holds]

@[grind =]
theorem areClean_enclosed (d : Delimiter) (ts : List Token) :
    AreClean (Token.enclosed d ts) = AreClean ts := by
  simp [Token.enclosed, AreClean, IsClean, Holds]

/-- Clean lists in a row are clean. -/
theorem areClean_flatMap {α : Type} {l : List α} {f : α → List Token}
    (h : ∀ a ∈ l, AreClean (f a)) : AreClean (l.flatMap f) := by
  induction l with
  | nil => trivial
  | cons a l ih =>
    rw [List.flatMap_cons]
    exact areClean_append (h a List.mem_cons_self) (ih fun b hb => h b (List.mem_cons_of_mem a hb))

/-! ### Questions -/

@[grind .]
theorem sees_sound (p : Ahead) : Sound start (Rule.sees p) := by
  intro ts a rest _ _ hrun
  obtain ⟨-, rfl⟩ := Prod.mk.inj (Option.some.inj hrun)
  exact ⟨Reads.refl _, trivial⟩

@[grind .]
theorem expects_sound (p : Ahead) : Sound start (Rule.expects p) := by
  intro ts a rest _ _ hrun
  rw [Rule.expects] at hrun
  split at hrun
  next =>
    obtain ⟨-, rfl⟩ := Prod.mk.inj (Option.some.inj hrun)
    exact ⟨Reads.refl _, trivial⟩
  next => cases hrun

/-- A rule may choose how to go on by what is ahead. -/
theorem Sound.whether {p : Ahead} {r r' : Rule α} (h : Sound start r) (h' : Sound start r') :
    Sound start (Rule.sees p >>= fun answer => if answer = true then r else r') :=
  (sees_sound p).bind fun _ _ => .ite h h'

/-- The same for proper rules. -/
theorem Proper.whether {p : Ahead} {r r' : Rule α} (h : Proper start r) (h' : Proper start r') :
    Proper start (Rule.sees p >>= fun answer => if answer = true then r else r') :=
  Proper.after (sees_sound p) fun _ _ => .ite h h'

/-- A question whose answer is always no makes no difference. -/
theorem Proper.of_sees_false {f : Bool → Rule α} (h : Proper start (f false)) :
    Proper start (Rule.sees (fun _ => false) >>= f) :=
  h

/-- What was read since the start is clean. -/
@[grind .]
theorem since_sound : Sound start (Rule.since start) := by
  intro ts a rest _ hts hrun
  obtain ⟨rfl, rfl⟩ := Prod.mk.inj (Option.some.inj hrun)
  obtain ⟨read, rfl, hread⟩ := hts
  have htake : (read ++ ts).take ((read ++ ts).length - ts.length) = read := by
    rw [List.length_append, Nat.add_sub_cancel, List.take_left]
  refine ⟨Reads.refl _, ?_⟩
  rw [htake]
  exact hread

/-! ### Operators -/

/-- Characters that can stand in one operator: marks of which no two begin a
comment. -/
def formOperator : List Char → Bool
  | [] => true
  | c :: cs => isMark c && c != '\'' &&
      !(c == '/' && cs.head?.any fun d => d == '/' || d == '*') && formOperator cs

/-- The marks of an operator are clean. -/
theorem areClean_marksOf {cs : List Char} (h : formOperator cs = true) :
    AreClean (Token.marksOf cs) := by
  induction cs with
  | nil => trivial
  | cons c cs ih =>
    simp only [formOperator, Bool.and_eq_true, bne_iff_ne, Bool.not_eq_true'] at h
    obtain ⟨⟨⟨hmark, hquote⟩, hslash⟩, hcs⟩ := h
    cases cs with
    | nil => simp [Token.marksOf, AreClean, IsClean, Holds, hmark, hquote]
    | cons d cs =>
      -- All marks but the last are joint, and a joint slash must not begin a comment.
      have hrest := ih hcs
      have hholds : (Token.punct c .joint).Holds (Token.marksOf (d :: cs)) := by
        constructor
        · intro s hs
          exact absurd (Token.punct.inj hs).1 hquote
        · intro hs
          obtain rfl := (Token.punct.inj hs).1
          simp only [beq_self_eq_true, Bool.true_and, List.head?_cons, Option.any_some,
            Bool.or_eq_false_iff, beq_eq_false_iff_ne] at hslash
          cases cs with
          | nil => exact hslash
          | cons e cs => exact hslash
      rw [Token.marksOf, AreClean]
      · exact ⟨⟨hmark, fun hc => absurd hc hquote⟩, hholds, hrest⟩
      · exact List.cons_ne_nil d cs

/-- What is read where the characters of an operator are ahead. -/
theorem exists_of_marks {cs : List Char} {ts : List Token} (h : Ahead.marks cs ts = true) :
    ∃ read c s, ts = read ++ ts.drop cs.length ∧ read.getLast? = some (.punct c s) ∧
      cs.getLast? = some c := by
  induction cs generalizing ts with
  | nil => cases ts <;> cases h
  | cons c cs ih =>
    unfold Ahead.marks at h
    split at h
    next d s us heq =>
      -- The last character may be joint or alone, those before it have to be joint.
      obtain ⟨rfl, rfl⟩ := List.cons.inj heq
      exact ⟨[.punct d s], d, s, rfl, rfl, by rw [beq_iff_eq.mp h]; rfl⟩
    next c' cs' d us hne heq =>
      obtain ⟨rfl, rfl⟩ := List.cons.inj heq
      simp only [Bool.and_eq_true, beq_iff_eq] at h
      obtain ⟨read, e, s, hread, hlast, hcs⟩ := ih h.2
      refine ⟨.punct d .joint :: read, e, s, ?_, ?_, ?_⟩
      · rw [List.length_cons, List.drop_succ_cons, List.cons_append, ← hread]
      · cases read with
        | nil => cases hlast
        | cons u read => exact hlast
      · cases cs with
        | nil => cases hcs
        | cons f cs => exact hcs
    next => cases h

/-- The operators between operands but for the single slash. -/
def longOperators : List String :=
  ["+=", "-=", "*=", "/=", "%=", "^=", "&=", "|=", "<<=", ">>=", "&&", "||", "<<", ">>", "==",
    "<=", "!=", ">=", "+", "-", "*", "%", "^", "&", "|", "<", ">"]

/-- The operators of the grammar but for the single slash. -/
@[grind =]
def IsOperator (m : String) : Prop :=
  m = "!" ∨ m = "#" ∨ m = "&" ∨ m = "*" ∨ m = "+" ∨ m = "," ∨ m = "-" ∨ m = "->" ∨ m = "." ∨
    m = ".." ∨ m = "..." ∨ m = "..=" ∨ m = ":" ∨ m = "::" ∨ m = ";" ∨ m = "<" ∨ m = "=" ∨
    m = "=>" ∨ m = ">" ∨ m = "?" ∨ m = "@" ∨ m = "|" ∨ m ∈ longOperators

/-- An operator is one, and does not end in a mark that hangs. -/
theorem IsOperator.spec {m : String} (h : IsOperator m) :
    formOperator m.toList = true ∧ ∀ c ∈ m.toList.getLast?, c ≠ '/' ∧ c ≠ '\'' := by
  have all : longOperators.all (fun m => formOperator m.toList &&
      m.toList.getLast?.all fun c => c != '/' && c != '\'') = true := by rfl
  have hspec : (formOperator m.toList &&
      m.toList.getLast?.all fun c => c != '/' && c != '\'') = true := by
    -- The single operators are decided one by one, the list as a whole.
    unfold IsOperator at h
    iterate 22
      rcases h with rfl | h
      · decide
    exact List.all_eq_true.mp all m h
  rw [Bool.and_eq_true, Option.all_eq_true] at hspec
  exact ⟨hspec.1, fun c hc => by simpa using hspec.2 c hc⟩

/-- What is read where an operator is ahead is clean. -/
theorem reads_of_mark {m : String} (h : IsOperator m) {ts : List Token} (hts : AreClean ts)
    (hmark : Ahead.mark m ts = true) :
    Reads ts (ts.drop m.length) ∧ (ts.drop m.length).length < ts.length := by
  obtain ⟨read, c, s, hread, hlast, hc⟩ := exists_of_marks hmark
  rw [String.length_toList] at hread
  have hclean : AreClean read := by
    rw [hread] at hts
    -- The last mark that was read is the last one of the operator.
    refine hts.of_append fun t ht => ?_
    rw [hlast] at ht
    obtain rfl := Option.some.inj ht
    obtain ⟨hslash, hquote⟩ := h.spec.2 c hc
    rintro (⟨s', hs⟩ | hs)
    · exact hquote (Token.punct.inj hs).1
    · exact hslash (Token.punct.inj hs).1
  refine ⟨⟨read, hread, hclean⟩, ?_⟩
  have hlength := congrArg List.length hread
  have hpos : 0 < read.length := by
    cases read with
    | nil => cases hlast
    | cons t read => exact Nat.succ_pos _
  rw [List.length_append] at hlength
  omega

theorem areClean_operator {m : String} (h : IsOperator m) : AreClean (Token.operator m) :=
  areClean_marksOf h.spec.1

/-- An operator is read as a whole, and does not hang. -/
theorem mark_proper {m : String} (h : IsOperator m) : Proper start (Rule.mark m) := by
  intro ts a rest hstart hts hrun
  rw [Rule.mark] at hrun
  split at hrun
  next hmark =>
    obtain ⟨rfl, rfl⟩ := Prod.mk.inj (Option.some.inj hrun)
    obtain ⟨hreads, hlt⟩ := reads_of_mark h (hts.areClean hstart) hmark
    exact ⟨hreads, areClean_operator h, hlt⟩
  next => cases hrun

theorem mark_sound {m : String} (h : IsOperator m) : Sound start (Rule.mark m) :=
  (mark_proper h).sound

grind_pattern areClean_operator => AreClean (Token.operator m)
grind_pattern mark_sound => Sound start (Rule.mark m)

/-- An operator that may hang is read with what follows it, if that is a
token at least. -/
theorem mark_bind_sound {γ : Type} [Tidy γ] {m : String} (hm : formOperator m.toList = true)
    {r : Rule α} {f : List Token → α → Rule γ} (hr : ∀ ts, Proper ts r)
    (hf : ∀ operator a, AreClean operator → tidy a → Sound start (f operator a)) :
    Sound start (Rule.mark m >>= fun operator => r >>= fun a => f operator a) := by
  intro ts b rest hstart hts hrun
  obtain ⟨operator, middle, hmark, hrun⟩ := bind_eq_some hrun
  obtain ⟨a, after, hr', hrest⟩ := bind_eq_some hrun
  rw [Rule.mark] at hmark
  split at hmark
  next hahead =>
    obtain ⟨rfl, rfl⟩ := Prod.mk.inj (Option.some.inj hmark)
    have hclean := hts.areClean hstart
    obtain ⟨read, c, s, hread, -⟩ := exists_of_marks hahead
    rw [String.length_toList] at hread
    have hmiddle : AreClean (ts.drop m.length) := by
      rw [hread] at hclean
      exact hclean.suffix
    obtain ⟨⟨read', hread', hclean'⟩, ha, hlt⟩ :=
      hr _ _ a after hmiddle (Reads.refl _) hr'
    -- What is read ends as the part behind the operator does.
    have hreads : Reads ts after := by
      refine ⟨read ++ read', by rw [List.append_assoc, ← hread', ← hread], ?_⟩
      rw [hread, hread', ← List.append_assoc] at hclean
      refine hclean.of_append fun t ht => ?_
      cases read' with
      | nil =>
        rw [hread'] at hlt
        exact absurd hlt (Nat.lt_irrefl _)
      | cons u read' =>
        rw [List.getLast?_append, List.getLast?_cons, Option.some_or, ← List.getLast?_cons] at ht
        exact hclean'.not_hangs t ht
    obtain ⟨hreads', hb⟩ :=
      hf _ a (areClean_marksOf hm) ha after b rest hstart (hts.trans hreads) hrest
    exact ⟨hreads.trans hreads', hb⟩
  next => cases hmark

/-! ### Rules that may give nothing -/

/-- A sound rule that reads a token at least if it gives a value. -/
def Starts (start : List Token) (r : Rule (Option α)) : Prop :=
  ∀ ts o rest, AreClean start → Reads start ts → r ts = some (o, rest) →
    Reads ts rest ∧ tidy o ∧ (o ≠ none → rest.length < ts.length)

theorem Starts.sound {r : Rule (Option α)} (h : Starts start r) : Sound start r :=
  fun ts o rest hstart hts hr =>
    have hread := h ts o rest hstart hts hr
    ⟨hread.1, hread.2.1⟩

/-- What a proper rule gives has been read. -/
theorem Starts.some {r : Rule α} (h : Proper start r) : Starts start (do return some (← r)) := by
  intro ts o rest hstart hts hrun
  obtain ⟨a, middle, hr, hpure⟩ := bind_eq_some hrun
  obtain ⟨rfl, rfl⟩ := Prod.mk.inj (Option.some.inj hpure)
  obtain ⟨hreads, ha, hlt⟩ := h ts a middle hstart hts hr
  exact ⟨hreads, (tidy_some a).mpr ha, fun _ => hlt⟩

/-- Nothing can be given without reading. -/
theorem Starts.none : Starts start (Pure.pure none : Rule (Option α)) := by
  intro ts o rest _ _ hrun
  obtain ⟨rfl, rfl⟩ := Prod.mk.inj (Option.some.inj hrun)
  exact ⟨Reads.refl _, tidy_none, fun hne => absurd rfl hne⟩

theorem Starts.whether {p : Ahead} {r r' : Rule (Option α)} (h : Starts start r)
    (h' : Starts start r') :
    Starts start (Rule.sees p >>= fun answer => if answer = true then r else r') := by
  intro ts o rest hstart hts hrun
  obtain ⟨answer, middle, hsees, hrest⟩ := bind_eq_some hrun
  obtain ⟨rfl, rfl⟩ := Prod.mk.inj (Option.some.inj hsees)
  split at hrest
  · exact h ts o rest hstart hts hrest
  · exact h' ts o rest hstart hts hrest

/-- Whoever goes on by reading where nothing was given reads a token. -/
theorem Starts.bind {r : Rule (Option α)} {f : Option α → Rule β} (h : Starts start r)
    (hnone : Proper start (f Option.none)) (hsome : ∀ a, tidy a → Sound start (f (Option.some a))) :
    Proper start (r >>= f) := by
  intro ts b rest hstart hts hrun
  obtain ⟨o, middle, hr, hrest⟩ := bind_eq_some hrun
  obtain ⟨hmiddle, ho, hlt⟩ := h ts o middle hstart hts hr
  cases o with
  | none =>
    obtain ⟨hread, hb, hlt'⟩ := hnone middle b rest hstart (hts.trans hmiddle) hrest
    exact ⟨hmiddle.trans hread, hb, Nat.lt_of_lt_of_le hlt' hmiddle.length_le⟩
  | some a =>
    have ha : tidy a := ho a rfl
    obtain ⟨hread, hb⟩ := hsome a ha middle b rest hstart (hts.trans hmiddle) hrest
    exact ⟨hmiddle.trans hread, hb, Nat.lt_of_le_of_lt hread.length_le (hlt (by simp))⟩

/-! ### Single tokens -/

/-- A rule that reads one token of a clean list, and gives it or something
like it. -/
theorem proper_of_cons {r : Rule α}
    (h : ∀ ts a rest, AreClean ts → r ts = some (a, rest) →
      tidy a ∧ ∃ t, ts = t :: rest ∧ ¬ t.Hangs) : Proper start r := by
  intro ts a rest hstart hts hrun
  have hclean := hts.areClean hstart
  obtain ⟨ha, t, rfl, hhangs⟩ := h ts a rest hclean hrun
  refine ⟨⟨[t], rfl, ?_⟩, ha, Nat.lt_succ_self _⟩
  rw [AreClean] at hclean
  exact ⟨hclean.1, Holds.of_append hclean.2.1 (Or.inr hhangs), trivial⟩

theorem ident_not_hangs (i : Ident) : ¬ (Token.ident i).Hangs := by
  rintro (⟨s, hs⟩ | hs) <;> cases hs

/-- A rule that reads an identifier. -/
theorem proper_of_ident {r : Rule α}
    (h : ∀ ts a rest, r ts = some (a, rest) → ∃ i, ts = .ident i :: rest ∧ (i.IsLexed → tidy a)) :
    Proper start r := by
  refine proper_of_cons fun ts a rest hclean hrun => ?_
  obtain ⟨i, rfl, ha⟩ := h ts a rest hrun
  rw [areClean_ident_cons] at hclean
  exact ⟨ha hclean.1, _, rfl, ident_not_hangs i⟩

theorem word_proper (w : String) : Proper start (Rule.word w) := by
  refine proper_of_ident fun ts a rest hrun => ?_
  unfold Rule.word at hrun
  split at hrun
  next i us =>
    split at hrun
    next =>
      obtain ⟨rfl, rfl⟩ := Prod.mk.inj (Option.some.inj hrun)
      exact ⟨i, rfl, fun hi => (areClean_ident_cons i []).mpr ⟨hi, trivial⟩⟩
    next => cases hrun
  next => cases hrun

theorem anyWord_proper : Proper start Rule.anyWord := by
  refine proper_of_ident fun ts a rest hrun => ?_
  unfold Rule.anyWord at hrun
  split at hrun
  next i us =>
    obtain ⟨rfl, rfl⟩ := Prod.mk.inj (Option.some.inj hrun)
    exact ⟨i, rfl, id⟩
  next => cases hrun

theorem name_proper : Proper start Rule.name := by
  refine proper_of_ident fun ts a rest hrun => ?_
  unfold Rule.name at hrun
  split at hrun
  next i us =>
    split at hrun
    next =>
      obtain ⟨rfl, rfl⟩ := Prod.mk.inj (Option.some.inj hrun)
      exact ⟨i, rfl, id⟩
    next => cases hrun
  next => cases hrun

theorem nameOrBlank_proper : Proper start Rule.nameOrBlank := by
  refine proper_of_ident fun ts a rest hrun => ?_
  unfold Rule.nameOrBlank at hrun
  split at hrun
  next i us =>
    split at hrun
    next =>
      obtain ⟨rfl, rfl⟩ := Prod.mk.inj (Option.some.inj hrun)
      exact ⟨i, rfl, id⟩
    next => cases hrun
  next => cases hrun

@[grind .]
theorem word_sound (w : String) : Sound start (Rule.word w) := (word_proper w).sound

@[grind .]
theorem anyWord_sound : Sound start Rule.anyWord := anyWord_proper.sound

@[grind .]
theorem name_sound : Sound start Rule.name := name_proper.sound

@[grind .]
theorem nameOrBlank_sound : Sound start Rule.nameOrBlank := nameOrBlank_proper.sound

@[grind .]
theorem spelt_sound {r : Rule Ident} (h : Sound start r) : Sound start (Rule.spelt r) := by
  unfold Rule.spelt
  grind

/-- A lifetime is read as a whole. -/
theorem lifetime_proper : Proper start Rule.lifetime := by
  intro ts a rest hstart hts hrun
  have hclean := hts.areClean hstart
  unfold Rule.lifetime at hrun
  split at hrun
  next i us =>
    obtain ⟨rfl, rfl⟩ := Prod.mk.inj (Option.some.inj hrun)
    have hread : AreClean [Token.punct '\'' .joint, .ident i] := by
      refine AreClean.of_append (r := us) hclean fun t ht => ?_
      obtain rfl := Option.some.inj ht
      exact ident_not_hangs i
    exact ⟨⟨_, rfl, hread⟩, hread, Nat.lt_succ_of_lt (Nat.lt_succ_self _)⟩
  next => cases hrun

@[grind .]
theorem lifetime_sound : Sound start Rule.lifetime := lifetime_proper.sound

theorem literal_not_hangs (s : String) : ¬ (Token.literal s).Hangs := by
  rintro (⟨s', hs⟩ | hs) <;> cases hs

/-- A literal is read as a whole, with its sign if it has one. -/
theorem literal_proper : Proper start Rule.literal := by
  intro ts a rest hstart hts hrun
  have hclean := hts.areClean hstart
  unfold Rule.literal at hrun
  split at hrun
  next s us =>
    obtain ⟨rfl, rfl⟩ := Prod.mk.inj (Option.some.inj hrun)
    have hread : AreClean [Token.literal s] := by
      refine AreClean.of_append (r := us) hclean fun t ht => ?_
      obtain rfl := Option.some.inj ht
      exact literal_not_hangs s
    exact ⟨⟨_, rfl, hread⟩, hread, Nat.lt_succ_self _⟩
  next i us =>
    split at hrun
    next =>
      obtain ⟨rfl, rfl⟩ := Prod.mk.inj (Option.some.inj hrun)
      have hread : AreClean [Token.ident i] := by
        refine AreClean.of_append (r := us) hclean fun t ht => ?_
        obtain rfl := Option.some.inj ht
        exact ident_not_hangs i
      exact ⟨⟨_, rfl, hread⟩, hread, Nat.lt_succ_self _⟩
    next => cases hrun
  -- The sign is given on its own, however it was written.
  next s lit us =>
    split at hrun
    next =>
      obtain ⟨rfl, rfl⟩ := Prod.mk.inj (Option.some.inj hrun)
      have hread : AreClean [Token.punct '-' s, .literal lit] := by
        refine AreClean.of_append (r := us) hclean fun t ht => ?_
        obtain rfl := Option.some.inj ht
        exact literal_not_hangs lit
      refine ⟨⟨_, rfl, hread⟩, ?_, Nat.lt_succ_of_lt (Nat.lt_succ_self _)⟩
      simp only [AreClean, IsClean, and_true] at hread
      have hmark : isMark '-' = true := by decide
      simp [tidy, AreClean, IsClean, Holds, hread.2.2, hmark]
    next => cases hrun
  next => cases hrun

@[grind .]
theorem literal_sound : Sound start Rule.literal := literal_proper.sound

theorem group_not_hangs (d : Delimiter) (ts : List Token) : ¬ (Token.group d ts).Hangs := by
  rintro (⟨s, hs⟩ | hs) <;> cases hs

/-- A group is read as a whole. -/
theorem anyGroup_proper : Proper start Rule.anyGroup := by
  refine proper_of_cons fun ts a rest hclean hrun => ?_
  unfold Rule.anyGroup at hrun
  split at hrun
  next d us rest' =>
    obtain ⟨rfl, rfl⟩ := Prod.mk.inj (Option.some.inj hrun)
    rw [areClean_group_cons] at hclean
    exact ⟨(areClean_group_cons d us []).mpr ⟨hclean.1, trivial⟩, _, rfl, group_not_hangs d us⟩
  next => cases hrun

@[grind .]
theorem anyGroup_sound : Sound start Rule.anyGroup := anyGroup_proper.sound

/-! ### Groups -/

/-- A rule reads a group by a rule for what is in it. -/
theorem inside_proper {d : Delimiter} {r : Rule α} (h : ∀ ts, Sound ts r) :
    Proper start (Rule.inside d r) := by
  refine proper_of_cons fun ts a rest hclean hrun => ?_
  unfold Rule.inside at hrun
  split at hrun
  next d' us rest' =>
    rw [areClean_group_cons] at hclean
    split at hrun
    next =>
      split at hrun
      next a' hinner =>
        obtain ⟨rfl, rfl⟩ := Prod.mk.inj (Option.some.inj hrun)
        obtain ⟨-, ha⟩ := h us us _ [] hclean.1 (Reads.refl us) hinner
        exact ⟨ha, _, rfl, group_not_hangs d' us⟩
      next => cases hrun
    next => cases hrun
  next => cases hrun

@[grind .]
theorem inside_sound {d : Delimiter} {r : Rule α} (h : ∀ ts, Sound ts r) :
    Sound start (Rule.inside d r) :=
  (inside_proper h).sound

theorem enclosed_proper {d : Delimiter} {r : Phrase} (h : ∀ ts, Sound ts r) :
    Proper start (Rule.enclosed d r) := by
  refine (inside_proper h).bind fun ts hts => ?_
  exact .pure ((areClean_enclosed d ts).mpr hts)

@[grind .]
theorem enclosed_sound {d : Delimiter} {r : Phrase} (h : ∀ ts, Sound ts r) :
    Sound start (Rule.enclosed d r) :=
  (enclosed_proper h).sound

/-! ### Sequences -/

@[grind .]
theorem join_nil_sound : Sound start (Rule.join []) :=
  .pure trivial

@[grind .]
theorem join_cons_sound {r : Phrase} {rs : List Phrase} (h : Sound start r)
    (hrs : Sound start (Rule.join rs)) : Sound start (Rule.join (r :: rs)) := by
  refine h.bind fun ts hts => hrs.bind fun us hus => ?_
  exact .pure (areClean_append hts hus)

/-- Phrases are sound if the first three are, and those behind them. -/
@[grind .]
theorem join_three_sound {r r' r'' : Phrase} {rs : List Phrase} (h : Sound start r)
    (h' : Sound start r') (h'' : Sound start r'') (hrs : Sound start (Rule.join rs)) :
    Sound start (Rule.join (r :: r' :: r'' :: rs)) :=
  join_cons_sound h (join_cons_sound h' (join_cons_sound h'' hrs))

/-- Phrases are proper if the first is. -/
theorem join_cons_proper {r : Phrase} {rs : List Phrase} (h : Proper start r)
    (hrs : Sound start (Rule.join rs)) : Proper start (Rule.join (r :: rs)) := by
  refine h.bind fun ts hts => hrs.bind fun us hus => ?_
  exact .pure (areClean_append hts hus)

/-- Phrases are proper if those behind the first are. -/
theorem join_tail_proper {r : Phrase} {rs : List Phrase} (h : Sound start r)
    (hrs : Proper start (Rule.join rs)) : Proper start (Rule.join (r :: rs)) := by
  refine Proper.after h fun ts hts => hrs.bind fun us hus => ?_
  exact .pure (areClean_append hts hus)

@[grind .]
theorem whenever_sound {p : Ahead} {r : Phrase} (h : Sound start r) :
    Sound start (Rule.whenever p r) := by
  unfold Rule.whenever
  grind

@[grind .]
theorem optionalMark_sound {m : String} (h : IsOperator m) : Sound start (Rule.optionalMark m) :=
  whenever_sound (mark_sound h)

@[grind .]
theorem optionalWord_sound (w : String) : Sound start (Rule.optionalWord w) :=
  whenever_sound (word_sound w)

@[grind .]
theorem optionalLifetime_sound : Sound start Rule.optionalLifetime :=
  whenever_sound lifetime_sound

/-! ### Going back -/

/-- A rule that may go back as far as `start`, but reads clean tokens from
there in the end. -/
def Ends (start : List Token) (r : Rule α) : Prop :=
  ∀ ts a rest, AreClean start → Reads start ts → r ts = some (a, rest) →
    Reads start rest ∧ tidy a

/-- A sound rule does not go back. -/
theorem Sound.ends {r : Rule α} (h : Sound start r) : Ends start r :=
  fun ts a rest hstart hts hr =>
    have hread := h ts a rest hstart hts hr
    ⟨hts.trans hread.1, hread.2⟩

theorem Ends.bind {r : Rule α} {f : α → Rule β} (h : Sound start r)
    (hf : ∀ a, tidy a → Ends start (f a)) : Ends start (r >>= f) := by
  intro ts b rest hstart hts hrun
  obtain ⟨a, middle, hr, hrest⟩ := bind_eq_some hrun
  obtain ⟨hmiddle, ha⟩ := h ts a middle hstart hts hr
  exact hf a ha middle b rest hstart (hts.trans hmiddle) hrest

theorem Ends.whether {p : Ahead} {r r' : Rule α} (h : Ends start r) (h' : Ends start r') :
    Ends start (Rule.sees p >>= fun answer => if answer = true then r else r') := by
  refine .bind (sees_sound p) fun answer _ => ?_
  split
  · exact h
  · exact h'

/-- A rule may go on from a point that clean tokens were read up to. -/
theorem Ends.set {rest : List Token} {r : Rule α}
    (h : AreClean start → Reads start rest ∧ Sound start r) :
    Ends start (set rest >>= fun _ => r) := by
  intro ts a after hstart _ hrun
  obtain ⟨_, _, hset, hr⟩ := bind_eq_some hrun
  obtain ⟨-, rfl⟩ := Prod.mk.inj (Option.some.inj hset)
  obtain ⟨hrest, hsound⟩ := h hstart
  obtain ⟨hread, ha⟩ := hsound rest a after hstart hrest hr
  exact ⟨hrest.trans hread, ha⟩

/-- A rule may go back as far as the point that it starts from. -/
theorem Sound.of_ends {f : List Token → Rule α} (h : ∀ ts, Ends ts (f ts)) :
    Sound start (MonadState.get >>= f) := by
  intro ts a rest hstart hts hrun
  have hread : f ts ts = some (a, rest) := hrun
  exact h ts ts a rest (hts.areClean hstart) (Reads.refl ts) hread

/-! ### Repetition -/

/-- A rule may depend on the tokens that are left. -/
theorem Sound.look {f : List Token → Rule α} (h : ∀ ts, Sound start (f ts)) :
    Sound start (MonadState.get >>= f) := by
  intro ts a rest hstart hts hrun
  have hread : f ts ts = some (a, rest) := hrun
  exact h ts ts a rest hstart hts hread

/-- A rule may begin by counting the tokens that are left. -/
theorem Sound.count {f : Nat → Rule α} (h : ∀ n, Sound start (f n)) :
    Sound start (do f ((← MonadState.get).length + 1)) :=
  .look fun ts => h (ts.length + 1)

/-- The same for proper rules. -/
theorem Proper.count {f : Nat → Rule α} (h : ∀ n, Proper start (f n)) :
    Proper start (do f ((← MonadState.get).length + 1)) := by
  intro ts a rest hstart hts hrun
  have hread : f (ts.length + 1) ts = some (a, rest) := hrun
  exact h _ ts a rest hstart hts hread

@[grind .]
theorem repeatUntil_sound {stop : Ahead} {r : Rule α} (h : Sound start r) :
    Sound start (Rule.repeatUntil stop r) := by
  refine .count fun n => ?_
  induction n with
  | zero => exact .failure
  | succ n ih =>
    unfold Rule.repeatWithin
    grind

@[grind .]
theorem entriesUntil_sound {stop : Ahead} {r : Rule α} {separator : Phrase} (h : Sound start r)
    (hseparator : Sound start separator) : Sound start (Rule.entriesUntil stop r separator) := by
  refine .count fun n => ?_
  induction n with
  | zero => exact .failure
  | succ n ih =>
    unfold Rule.entriesWithin
    grind

@[grind .]
theorem chainUntil_sound {stop more : Ahead} {r : Rule α} {separator : Phrase}
    (h : Sound start r) (hseparator : Sound start separator) :
    Sound start (Rule.chainUntil stop r more separator) := by
  refine .count fun n => ?_
  induction n with
  | zero => exact .failure
  | succ n ih =>
    unfold Rule.chainWithin
    grind

/-- A chain that nothing stops has an entry. -/
theorem chainUntil_proper {more : Ahead} {r : Rule α} {separator : Phrase} (h : Proper start r)
    (hseparator : Sound start separator) :
    Proper start (Rule.chainUntil (fun _ => false) r more separator) := by
  refine .count fun n => ?_
  cases n with
  | zero => exact .failure
  | succ n =>
    -- Only the first entry has to read something; what follows it may be nothing.
    have hmore : Sound start (Rule.chainWithin (fun _ => false) r more separator n) := by
      induction n with
      | zero => exact .failure
      | succ n ih =>
        have hr := h.sound
        unfold Rule.chainWithin
        grind
    unfold Rule.chainWithin
    refine Proper.of_sees_false (h.bind fun a ha => ?_)
    grind

@[grind .]
theorem areClean_flatten {entries : List (Rule.Entry (List Token))} (h : tidy entries) :
    AreClean (Rule.flatten entries) :=
  areClean_flatMap fun e he => areClean_append (h e he).1 (h e he).2

@[grind .]
theorem allUntil_sound {stop : Ahead} {r : Phrase} (h : Sound start r) :
    Sound start (Rule.allUntil stop r) := by
  refine (repeatUntil_sound h).bind fun l hl => .pure ?_
  rw [← List.flatMap_id]
  exact areClean_flatMap hl

@[grind .]
theorem commaSeparated_sound {r : Phrase} (h : Sound start r) :
    Sound start (Rule.commaSeparated r) := by
  unfold Rule.commaSeparated
  grind

end Grammar

end EnumCompanion
