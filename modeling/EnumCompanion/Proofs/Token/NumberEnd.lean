import EnumCompanion.Proofs.Token.LiteralEnd

/-!
# `EnumCompanion.Proofs.Token.NumberEnd`: where a number ends

A number may be followed by what looks like more of it: `1..2`, `1.max`,
`1e+x`. Which characters the lexer takes then depends on what it finds
further on. This module shows that the characters it has taken are taken
again when a stop follows them instead.

* `exists_afterExponent?` and `afterExponent?_eq_none`: an exponent ends
  at its last digit, and a letter that begins none begins none before a
  stop.
* `afterFloat?_endsAt` and `afterNumber?_endsAt`: floating numbers, and
  integers that are not the beginning of one.
* `afterLiteral?_endsAt`: literals of all kinds.
* `afterLiteral?_repr`: numbers in decimal are literals.
-/

set_option autoImplicit false

namespace EnumCompanion.Token

open EnumCompanion.Text
open Number

/-! ### Digits -/

/-- A text that does not go on the digits in front of it. -/
def EndsDigits (k : List Char) : Prop :=
  ∀ c ∈ k.head?, isDigitOrGap c = false

/-- A digit or a gap may go on a word. -/
theorem continue_of_isDigitOrGap {c : Char} (h : isDigitOrGap c = true) :
    isIdentifierContinue c = true := by
  simp only [isDigitOrGap, isDigit, Bool.or_eq_true, Bool.and_eq_true, decide_eq_true_eq,
    Char.le_def, UInt32.le_iff_toNat_le, beq_iff_eq] at h
  rcases h with ⟨hlow, hhigh⟩ | rfl
  · have hlow' : ¬ c.toNat < 48 := Nat.not_lt.mpr hlow
    have hhigh' : c.toNat < 58 := Nat.lt_succ_of_le hhigh
    have hmem : identifierContinueOnlySet.contains c = true := by
      show (if c.toNat < 48 then false else if c.toNat < 58 then true else _) = true
      rw [if_neg hlow', if_pos hhigh']
    rw [isIdentifierContinue, hmem, Bool.or_true]
  · rfl

/-- What does not go on a word goes on no digits. -/
theorem EndsWord.endsDigits {k : List Char} (h : EndsWord k) : EndsDigits k := by
  intro c hc
  cases hgap : isDigitOrGap c with
  | false => rfl
  | true => exact absurd (continue_of_isDigitOrGap hgap) (by rw [h c hc]; decide)

/-- Digits are taken from a text without regard to what does not go on
them. -/
theorem takeWhile_append_of_endsDigits (y : List Char) {k : List Char} (hk : EndsDigits k) :
    (y ++ k).takeWhile isDigitOrGap = y.takeWhile isDigitOrGap := by
  induction y with
  | nil =>
    cases k with
    | nil => rfl
    | cons c k => rw [List.nil_append, List.takeWhile_cons_of_neg (by rw [hk c rfl]; decide)]; rfl
  | cons d y ih => simp only [List.cons_append, List.takeWhile_cons, ih]

/-- What is left behind the digits of a text goes on with what follows
it. -/
theorem dropWhile_append_of_endsDigits (y : List Char) {k : List Char} (hk : EndsDigits k) :
    (y ++ k).dropWhile isDigitOrGap = y.dropWhile isDigitOrGap ++ k := by
  induction y with
  | nil =>
    cases k with
    | nil => rfl
    | cons c k => rw [List.nil_append, List.dropWhile_cons_of_neg (by rw [hk c rfl]; decide)]; rfl
  | cons d y ih =>
    simp only [List.cons_append, List.dropWhile_cons, ih]
    split <;> rfl

/-- What is left behind the digits of a text does not go on them. -/
theorem endsDigits_dropWhile (y : List Char) : EndsDigits (y.dropWhile isDigitOrGap) :=
  head?_dropWhile y

/-! ### Suffixes -/

/-- A number with its suffix ends before any stop. -/
theorem exists_finish? {cs rest : List Char} (h : finish? cs = some rest) :
    ∃ w, cs = w ++ rest ∧ (w = [] ∨ IsWord w) ∧ EndsWord rest ∧
      ∀ k, Stops k → finish? (w ++ k) = some k := by
  obtain ⟨w, hcs, hw, hstop⟩ := exists_afterSuffix cs
  -- Behind the suffix only a letter would keep the number from ending, and no stop is one.
  have hend : ∀ k, Stops k → finish? (w ++ k) = some k := by
    intro k hk
    unfold finish?
    simp only [hstop k hk]
    cases k with
    | nil => rfl
    | cons c k => simp [(stops_spec (hk c rfl)).1]
  unfold finish? at h
  simp only at h
  split at h
  next c after hafter =>
    split at h
    next => cases h
    next hc =>
      obtain rfl := Option.some.inj h
      refine ⟨w, hcs, hw, ?_, hend⟩
      intro d hd
      rw [hafter] at hd
      obtain rfl := Option.some.inj hd
      simpa using hc
  next hafter =>
    obtain rfl := Option.some.inj h
    exact ⟨w, by rw [← hafter, ← hcs], hw, nofun, hend⟩

/-- What does not go on a word ends a number at once. -/
theorem finish?_of_endsWord {k : List Char} (hk : EndsWord k) : finish? k = some k := by
  cases k with
  | nil => rfl
  | cons c k =>
    have hc := hk c rfl
    have hstart : isIdentifierStart c = false := by
      cases h : isIdentifierStart c with
      | false => rfl
      | true => rw [continue_of_start h] at hc; cases hc
    simp [finish?, afterSuffix, afterName?, hstart, hc]

/-! ### Exponents -/

/-- An exponent in its parts: gaps, a sign or none, and the rest. -/
def IsExponent (gaps sign rest : List Char) : Prop :=
  (∀ c ∈ gaps, (c == '_') = true) ∧
    (sign = ['+'] ∨ sign = ['-'] ∨ sign = [] ∧ ∀ c ∈ rest.head?, c ∉ ['+', '-', '_'])

/-- An exponent is read part by part. -/
theorem afterExponent?_eq {gaps sign rest : List Char} (h : IsExponent gaps sign rest) :
    afterExponent? (gaps ++ (sign ++ rest)) =
      if (rest.takeWhile isDigitOrGap).any isDigit then some (rest.dropWhile isDigitOrGap)
      else none := by
  obtain ⟨hgaps, hsign⟩ := h
  -- The gaps end at the sign, or where there is none at something that is no gap.
  have hdrop : (gaps ++ (sign ++ rest)).dropWhile (· == '_') = sign ++ rest := by
    refine dropWhile_append_of_all hgaps ?_
    rcases hsign with rfl | rfl | ⟨rfl, hrest⟩
    · simp
    · simp
    · intro c hc
      have := hrest c hc
      simp_all
  unfold afterExponent?
  rw [hdrop]
  rcases hsign with rfl | rfl | ⟨rfl, hrest⟩
  · rfl
  · rfl
  · cases rest with
    | nil => rfl
    | cons c rest =>
      have hc := hrest c rfl
      simp only [List.mem_cons, List.not_mem_nil, or_false, not_or] at hc
      simp only [List.nil_append]
      split <;> simp_all

/-- A text has the parts of an exponent. -/
theorem exists_isExponent (x : List Char) :
    ∃ gaps sign rest, x = gaps ++ (sign ++ rest) ∧ IsExponent gaps sign rest := by
  have hgaps : ∀ c ∈ x.takeWhile (· == '_'), (c == '_') = true :=
    List.all_eq_true.mp List.all_takeWhile
  have hx : x = x.takeWhile (· == '_') ++ x.dropWhile (· == '_') :=
    List.takeWhile_append_dropWhile.symm
  have hhead := head?_dropWhile (p := (· == '_')) x
  cases hy : x.dropWhile (· == '_') with
  | nil => exact ⟨_, [], [], by rw [hy] at hx; exact hx, hgaps, Or.inr (Or.inr ⟨rfl, nofun⟩)⟩
  | cons c y =>
    rw [hy] at hx hhead
    by_cases hplus : c = '+'
    · subst hplus
      exact ⟨_, ['+'], y, hx, hgaps, Or.inl rfl⟩
    by_cases hminus : c = '-'
    · subst hminus
      exact ⟨_, ['-'], y, hx, hgaps, Or.inr (Or.inl rfl)⟩
    refine ⟨_, [], c :: y, hx, hgaps, Or.inr (Or.inr ⟨rfl, ?_⟩)⟩
    intro d hd
    obtain rfl := Option.some.inj hd
    have hgap : c ≠ '_' := beq_eq_false_iff_ne.mp (hhead c rfl)
    simp [hplus, hminus, hgap]

/-- An exponent ends at its last digit, whatever does not go on it
follows. -/
theorem exists_afterExponent? {x r : List Char} (h : afterExponent? x = some r) :
    ∃ p, x = p ++ r ∧ EndsDigits r ∧ ∀ k, EndsDigits k → afterExponent? (p ++ k) = some k := by
  obtain ⟨gaps, sign, rest, rfl, hgaps, hsign⟩ := exists_isExponent x
  rw [afterExponent?_eq ⟨hgaps, hsign⟩] at h
  split at h
  next hdigit =>
    obtain rfl := Option.some.inj h
    refine ⟨gaps ++ (sign ++ rest.takeWhile isDigitOrGap), ?_, endsDigits_dropWhile rest, ?_⟩
    · rw [List.append_assoc, List.append_assoc, List.takeWhile_append_dropWhile]
    · intro k hk
      have hall : ∀ c ∈ rest.takeWhile isDigitOrGap, isDigitOrGap c = true :=
        List.all_eq_true.mp List.all_takeWhile
      -- The digits are not empty, so they begin like all that stood behind the sign.
      have hrest : ∀ c ∈ (rest.takeWhile isDigitOrGap ++ k).head?, c ∈ rest.head? := by
        intro c hc
        cases rest with
        | nil => simp at hdigit
        | cons d rest =>
          by_cases hd : isDigitOrGap d = true
          · rw [List.takeWhile_cons_of_pos hd] at hc
            exact hc
          · rw [List.takeWhile_cons_of_neg hd] at hdigit
            simp at hdigit
      have hexponent : IsExponent gaps sign (rest.takeWhile isDigitOrGap ++ k) := by
        refine ⟨hgaps, ?_⟩
        rcases hsign with hplus | hminus | ⟨hnone, hhead⟩
        · exact Or.inl hplus
        · exact Or.inr (Or.inl hminus)
        · exact Or.inr (Or.inr ⟨hnone, fun c hc => hhead c (hrest c hc)⟩)
      rw [List.append_assoc, List.append_assoc, afterExponent?_eq hexponent,
        takeWhile_append_of_all hall hk, dropWhile_append_of_all hall hk, if_pos hdigit]
  next => cases h

/-- A word ahead has the parts of an exponent without a sign, or it is gaps
only. What does not go on it makes no difference. -/
theorem isExponent_word {x : List Char} (hx : ∀ d ∈ x, isIdentifierContinue d = true) :
    (∀ c ∈ x, (c == '_') = true) ∨
      ∃ gaps y, x = gaps ++ y ∧ (∀ d ∈ y, isIdentifierContinue d = true) ∧
        ∀ r, IsExponent gaps [] (y ++ r) := by
  have hgaps : ∀ c ∈ x.takeWhile (· == '_'), (c == '_') = true :=
    List.all_eq_true.mp List.all_takeWhile
  have hsplit : x = x.takeWhile (· == '_') ++ x.dropWhile (· == '_') :=
    List.takeWhile_append_dropWhile.symm
  have hhead := head?_dropWhile (p := (· == '_')) x
  -- What is left behind the gaps is a letter or a digit, and so no sign.
  cases hy : x.dropWhile (· == '_') with
  | nil =>
    left
    rw [hy, List.append_nil] at hsplit
    rw [hsplit]
    exact hgaps
  | cons c y =>
    right
    rw [hy] at hsplit hhead
    have hmem : ∀ d ∈ c :: y, isIdentifierContinue d = true := by
      intro d hd
      refine hx d ?_
      rw [hsplit]
      exact List.mem_append_right _ hd
    refine ⟨_, c :: y, hsplit, hmem, fun r => ⟨hgaps, Or.inr (Or.inr ⟨rfl, ?_⟩)⟩⟩
    intro d hd
    obtain rfl := Option.some.inj hd
    have hgap : c ≠ '_' := beq_eq_false_iff_ne.mp (hhead c rfl)
    have hspecial := not_special_of_continue (hmem c List.mem_cons_self)
    have hplus : c ≠ '+' := by
      rintro rfl
      exact hspecial (by decide)
    have hminus : c ≠ '-' := by
      rintro rfl
      exact hspecial (by decide)
    simp [hplus, hminus, hgap]

/-- Gaps and a stop make no exponent. -/
theorem afterExponent?_gaps {x k : List Char} (hx : ∀ c ∈ x, (c == '_') = true) (hk : Stops k) :
    afterExponent? (x ++ k) = none := by
  have hexponent : IsExponent x [] k := by
    refine ⟨hx, Or.inr (Or.inr ⟨rfl, fun c hc => ?_⟩)⟩
    have := (stops_spec (hk c hc)).2.2.2.2
    simp_all
  have htake := takeWhile_append_of_endsDigits [] hk.endsWord.endsDigits
  rw [List.nil_append, List.takeWhile_nil] at htake
  have h := afterExponent?_eq hexponent
  rw [List.nil_append, htake] at h
  simpa using h

/-- A word that begins no exponent begins none before a stop. -/
theorem afterExponent?_eq_none {x r k : List Char}
    (hx : ∀ d ∈ x, isIdentifierContinue d = true) (hr : EndsWord r) (hk : Stops k)
    (h : afterExponent? (x ++ r) = none) : afterExponent? (x ++ k) = none := by
  rcases isExponent_word hx with hgaps | ⟨gaps, y, rfl, -, hexponent⟩
  · exact afterExponent?_gaps hgaps hk
  · have hread := afterExponent?_eq (hexponent r)
    have hread' := afterExponent?_eq (hexponent k)
    rw [List.nil_append] at hread hread'
    rw [List.append_assoc, hread, takeWhile_append_of_endsDigits y hr.endsDigits] at h
    rw [List.append_assoc, hread', takeWhile_append_of_endsDigits y hk.endsWord.endsDigits]
    split at h
    next => cases h
    next hdigit => rw [if_neg hdigit]

/-- What goes on a word and ends no number begins with no letter, and so ends
none whatever stands behind it. -/
theorem finish?_eq_none_of_word {z r : List Char}
    (hz : ∀ d ∈ z, isIdentifierContinue d = true) (hr : EndsWord r) (h : finish? (z ++ r) = none)
    (k : List Char) : finish? (z ++ k) = none := by
  cases z with
  | nil =>
    rw [List.nil_append, finish?_of_endsWord hr] at h
    cases h
  | cons c z =>
    cases hstart : isIdentifierStart c with
    | true =>
      -- It is a suffix, and a suffix ends a number.
      have hword : IsWord (c :: z) :=
        ⟨c, z, rfl, hstart, fun d hd => hz d (List.mem_cons_of_mem _ hd)⟩
      have hsuffix : afterSuffix (c :: z ++ r) = r := by
        rw [afterSuffix, afterName?_append hword hr]
        rfl
      unfold finish? at h
      simp only [hsuffix] at h
      cases r with
      | nil => cases h
      | cons d r => simp [hr d rfl] at h
    | false =>
      have hcontinue := hz c List.mem_cons_self
      simp [finish?, afterSuffix, afterName?, hstart, hcontinue]

/-- A word whose exponent ends no number has none that ends one before a
stop. -/
theorem finish?_eq_none_of_afterExponent? {x r k after after' : List Char}
    (hx : ∀ d ∈ x, isIdentifierContinue d = true) (hr : EndsWord r) (hk : Stops k)
    (h : afterExponent? (x ++ r) = some after) (hfinish : finish? after = none)
    (h' : afterExponent? (x ++ k) = some after') : finish? after' = none := by
  rcases isExponent_word hx with hgaps | ⟨gaps, y, rfl, hy, hexponent⟩
  · rw [afterExponent?_gaps hgaps hk] at h'
    cases h'
  · have hread := afterExponent?_eq (hexponent r)
    have hread' := afterExponent?_eq (hexponent k)
    rw [List.nil_append] at hread hread'
    rw [List.append_assoc, hread, dropWhile_append_of_endsDigits y hr.endsDigits] at h
    rw [List.append_assoc, hread', dropWhile_append_of_endsDigits y hk.endsWord.endsDigits] at h'
    split at h
    next =>
      split at h'
      next =>
        obtain rfl := Option.some.inj h
        obtain rfl := Option.some.inj h'
        have hleft : ∀ d ∈ y.dropWhile isDigitOrGap, isIdentifierContinue d = true :=
          fun d hd => hy d ((List.dropWhile_suffix _).subset hd)
        exact finish?_eq_none_of_word hleft hr hfinish k
      next => cases h'
    next => cases h

/-! ### Floating numbers -/

/-- Digits at the beginning of a number. -/
def IsDigits (g : List Char) : Prop :=
  (∀ c ∈ g, isDigitOrGap c = true) ∧ g.head?.any isDigit = true

/-- A number begins with its digits. -/
theorem exists_isDigits {cs : List Char} (h : cs.head?.any isDigit = true) :
    ∃ g u, cs = g ++ u ∧ IsDigits g ∧ EndsDigits u := by
  refine ⟨cs.takeWhile isDigitOrGap, cs.dropWhile isDigitOrGap,
    List.takeWhile_append_dropWhile.symm, ⟨List.all_eq_true.mp List.all_takeWhile, ?_⟩,
    endsDigits_dropWhile cs⟩
  cases cs with
  | nil => cases h
  | cons c cs =>
    have hc : isDigit c = true := by simpa using h
    have hgap : isDigitOrGap c = true := by simp [isDigitOrGap, hc]
    rw [List.takeWhile_cons_of_pos hgap]
    simpa using hc

/-- The digits in front of a text are those at its beginning. -/
theorem head?_append_digits {g : List Char} (hg : IsDigits g) (u : List Char) :
    (g ++ u).head?.any isDigit = true := by
  obtain ⟨-, hhead⟩ := hg
  cases g with
  | nil => cases hhead
  | cons c g => exact hhead

/-- What follows the point of a floating number: no second point, and no
name. -/
def goesOnPoint (q : List Char) : Bool :=
  q.head?.any fun c => c == '.' || isIdentifierStart c

/-- A floating number with a point. -/
theorem afterFloatDigits?_point {g : List Char} (hg : IsDigits g) (q : List Char) :
    afterFloatDigits? (g ++ '.' :: q) =
      if goesOnPoint q then none
      else afterMantissa? (some (q.dropWhile isDigitOrGap)) (q.dropWhile isDigitOrGap) := by
  have hpoint : EndsDigits ('.' :: q) := by
    intro c hc
    obtain rfl := Option.some.inj hc
    decide
  unfold afterFloatDigits?
  rw [if_pos (head?_append_digits hg _), dropWhile_append_of_all hg.1 hpoint]
  rfl

/-- A number without a point behind its first digits. -/
theorem afterFloatDigits?_noPoint {g u : List Char} (hg : IsDigits g) (hu : EndsDigits u)
    (hpoint : u.head? ≠ some '.') : afterFloatDigits? (g ++ u) = afterMantissa? none u := by
  unfold afterFloatDigits?
  rw [if_pos (head?_append_digits hg _), dropWhile_append_of_all hg.1 hu]
  split
  next q => exact absurd rfl hpoint
  next => rfl

/-- Before a letter that begins no exponent the mantissa is all. -/
theorem afterMantissa?_other {before : Option (List Char)} {u : List Char}
    (h : ∀ c ∈ u.head?, c ∉ ['e', 'E']) : afterMantissa? before u = before := by
  cases u with
  | nil => rfl
  | cons c u =>
    have hc := h c rfl
    simp only [List.mem_cons, List.not_mem_nil, or_false] at hc
    rw [afterMantissa?, if_neg hc]

/-- Before a letter that may begin an exponent it decides whether there is
one. -/
theorem afterMantissa?_letter {before : Option (List Char)} {c : Char} (h : c ∈ ['e', 'E'])
    (u : List Char) : afterMantissa? before (c :: u) = (afterExponent? u).or before := by
  simp only [List.mem_cons, List.not_mem_nil, or_false] at h
  rw [afterMantissa?, if_pos h]
  cases afterExponent? u <;> rfl

/-- A stop is no letter of an exponent, and no point. -/
theorem Stops.not_letter {k : List Char} (hk : Stops k) :
    ∀ c ∈ k.head?, c ∉ ['e', 'E'] ∧ c ≠ '.' := by
  intro c hc
  have := (stops_spec (hk c hc)).2.2.2.2
  simp_all

/-- A stop does not go on a point. -/
theorem Stops.goesOnPoint {k : List Char} (hk : Stops k) : goesOnPoint k = false := by
  cases k with
  | nil => rfl
  | cons c k =>
    have hc := stops_spec (hk c rfl)
    simp [Token.goesOnPoint, hc.2.1, (hk.not_letter c rfl).2]

/-- A word or nothing, before a text that does not go on digits, does not go
on them either, if what it stands in does not. -/
theorem endsDigits_append {w rest k : List Char} (h : EndsDigits (w ++ rest)) (hk : EndsDigits k) :
    EndsDigits (w ++ k) := by
  cases w with
  | nil => exact hk
  | cons c w => exact h

/-- The letter of an exponent may open a word. -/
theorem start_of_letter {c : Char} (h : c ∈ ['e', 'E']) : isIdentifierStart c = true := by
  have all : ['e', 'E'].all isIdentifierStart = true := by rfl
  exact List.all_eq_true.mp all c h

/-- What is left of a number behind its digits is empty or opens a word. -/
def OpensWord (s : List Char) : Prop :=
  ∀ c ∈ s.head?, isIdentifierStart c = true

/-- A word opens one, and so does nothing. -/
theorem opensWord_of_isWord {w : List Char} (h : w = [] ∨ IsWord w) : OpensWord w := by
  rcases h with rfl | ⟨c, cs, rfl, hstart, -⟩
  · exact nofun
  · intro d hd
    obtain rfl := Option.some.inj hd
    exact hstart

/-- The mantissa of a floating number that ends behind its digits and a
suffix, which begins no exponent. -/
theorem afterMantissa?_endsAt_of_finish? {u rest : List Char} (hfinish : finish? u = some rest)
    (hexponent : ∀ c x, u = c :: x → c ∈ ['e', 'E'] → afterExponent? x = none) :
    ∃ s, u = s ++ rest ∧ OpensWord s ∧
      ∀ k, Stops k → (afterMantissa? (some (s ++ k)) (s ++ k)).bind finish? = some k := by
  obtain ⟨w, rfl, hw, hrest, hend⟩ := exists_finish? hfinish
  refine ⟨w, rfl, opensWord_of_isWord hw, fun k hk => ?_⟩
  suffices afterMantissa? (some (w ++ k)) (w ++ k) = some (w ++ k) by
    rw [this]
    exact hend k hk
  rcases hw with rfl | ⟨c, x, rfl, -, hcontinue⟩
  · exact afterMantissa?_other fun c hc => (hk.not_letter c hc).1
  · by_cases hletter : c ∈ ['e', 'E']
    · have hnone := afterExponent?_eq_none hcontinue hrest hk (hexponent c _ rfl hletter)
      rw [List.cons_append, afterMantissa?_letter hletter, hnone, Option.none_or]
    · refine afterMantissa?_other fun d hd => ?_
      obtain rfl := Option.some.inj hd
      exact hletter

/-- The mantissa of a floating number: what stands behind its digits, which
may end the number if `whole` holds, ends at the same point before any
stop. -/
theorem afterMantissa?_endsAt (whole : Bool) {u rest : List Char} (hu : EndsDigits u)
    (h : (afterMantissa? (if whole then some u else none) u).bind finish? = some rest) :
    ∃ s, u = s ++ rest ∧ OpensWord s ∧
      ∀ k, Stops k → (afterMantissa? (if whole then some (s ++ k) else none) (s ++ k)).bind
        finish? = some k := by
  by_cases hletter : ∃ c x, u = c :: x ∧ c ∈ ['e', 'E']
  · obtain ⟨c, x, rfl, hletter⟩ := hletter
    rw [afterMantissa?_letter hletter] at h
    cases hexponent : afterExponent? x with
    | some after =>
      rw [hexponent] at h
      obtain ⟨p, rfl, hafter, hp⟩ := exists_afterExponent? hexponent
      obtain ⟨w, rfl, -, -, hend⟩ := exists_finish? h
      refine ⟨c :: (p ++ w), by simp, ?_, fun k hk => ?_⟩
      · intro d hd
        obtain rfl := Option.some.inj hd
        exact start_of_letter hletter
      · have hread := hp (w ++ k) (endsDigits_append hafter hk.endsWord.endsDigits)
        rw [List.cons_append, List.append_assoc, afterMantissa?_letter hletter, hread]
        exact hend k hk
    | none =>
      -- The letter belongs to the suffix.
      rw [hexponent] at h
      cases whole with
      | false => cases h
      | true =>
        refine afterMantissa?_endsAt_of_finish? h fun d y heq _ => ?_
        obtain ⟨rfl, rfl⟩ := List.cons.inj heq
        exact hexponent
  · have hother : ∀ c ∈ u.head?, c ∉ ['e', 'E'] := by
      intro c hc hmem
      obtain ⟨x, rfl⟩ := List.head?_eq_some_iff.mp hc
      exact hletter ⟨c, x, rfl, hmem⟩
    rw [afterMantissa?_other hother] at h
    cases whole with
    | false => cases h
    | true =>
      exact afterMantissa?_endsAt_of_finish? h fun c x heq hmem => absurd ⟨c, x, heq, hmem⟩ hletter

/-- What opens a word, with a stop behind it, is no point. -/
theorem OpensWord.not_point {s k : List Char} (hs : OpensWord s) (hk : Stops k) :
    (s ++ k).head? ≠ some '.' := by
  cases s with
  | nil => exact fun h => (hk.not_letter _ h).2 rfl
  | cons c s =>
    intro h
    obtain rfl := Option.some.inj h
    have hstart := hs '.' rfl
    have hpoint : isIdentifierStart '.' = false := by rfl
    rw [hpoint] at hstart
    cases hstart

/-- What is no further point and no name, is none before a stop either. -/
theorem goesOnPoint_append {s rest k : List Char} (hk : Stops k)
    (h : goesOnPoint (s ++ rest) = false) : goesOnPoint (s ++ k) = false := by
  cases s with
  | nil => exact hk.goesOnPoint
  | cons c s => exact h

/-- A floating number ends before any stop. -/
theorem afterFloat?_endsAt {cs rest : List Char} (h : afterFloat? cs = some rest) :
    EndsAt afterFloat? cs rest := by
  have hhead : cs.head?.any isDigit = true := by
    rw [afterFloat?, afterFloatDigits?] at h
    split at h
    next hdigit => exact hdigit
    next => cases h
  obtain ⟨g, u, rfl, hg, hu⟩ := exists_isDigits hhead
  rw [afterFloat?] at h
  -- With a point, the digits behind it are dropped too, before the exponent is looked for.
  by_cases hpoint : u.head? = some '.'
  · obtain ⟨q, rfl⟩ := List.head?_eq_some_iff.mp hpoint
    rw [afterFloatDigits?_point hg] at h
    split at h
    next => cases h
    next hgoes =>
      obtain ⟨s, hs, hopens, hend⟩ := afterMantissa?_endsAt true (endsDigits_dropWhile q) h
      have hq : q.takeWhile isDigitOrGap ++ (s ++ rest) = q := by
        rw [← hs, List.takeWhile_append_dropWhile]
      have hfraction : ∀ c ∈ q.takeWhile isDigitOrGap, isDigitOrGap c = true :=
        List.all_eq_true.mp List.all_takeWhile
      refine ⟨g ++ '.' :: (q.takeWhile isDigitOrGap ++ s), by simp [hq], fun k hk => ?_⟩
      have hends : EndsDigits (s ++ k) :=
        endsDigits_append (hs ▸ endsDigits_dropWhile q) hk.endsWord.endsDigits
      rw [Bool.not_eq_true, ← hq, ← List.append_assoc] at hgoes
      have hgoes' := goesOnPoint_append hk hgoes
      rw [List.append_assoc] at hgoes'
      rw [afterFloat?, List.append_assoc, List.cons_append, List.append_assoc,
        afterFloatDigits?_point hg, hgoes', dropWhile_append_of_all hfraction hends]
      exact hend k hk
  · rw [afterFloatDigits?_noPoint hg hu hpoint] at h
    obtain ⟨s, rfl, hopens, hend⟩ := afterMantissa?_endsAt false hu h
    refine ⟨g ++ s, by simp, fun k hk => ?_⟩
    rw [afterFloat?, List.append_assoc,
      afterFloatDigits?_noPoint hg (endsDigits_append hu hk.endsWord.endsDigits)
        (hopens.not_point hk)]
    exact hend k hk

/-! ### Integers -/

/-- A stop is no digit in any base. -/
theorem Stops.not_digitOf {k : List Char} (hk : Stops k) (base : Nat) :
    ∀ c ∈ k.head?, isDigitOf base c = false := by
  intro c hc
  have all : stops.all (fun c => !isDigitOrGap c && (digitValue? c).isNone) = true := by rfl
  have hstop := List.all_eq_true.mp all c (hk c hc)
  simp only [Bool.and_eq_true, Bool.not_eq_true', Option.isNone_iff_eq_none] at hstop
  simp [isDigitOf, hstop.1, hstop.2]

/-- The decimal digits are the digits. -/
theorem isDigitOf_ten (c : Char) : isDigitOf 10 c = isDigitOrGap c := by
  cases hgap : isDigitOrGap c with
  | true => simp [isDigitOf, hgap]
  | false =>
    have hdigit : isDigit c = false := (Bool.or_eq_false_iff.mp hgap).1
    unfold isDigitOf digitValue?
    rw [hgap, hdigit]
    split
    next h => cases h
    next =>
      split
      next => simp
      next => split <;> simp

/-- The letters behind the zero of a number in another base. -/
def baseLetters : List (Char × Nat) :=
  [('x', 16), ('o', 8), ('b', 2)]

/-- A number is in another base or in base ten, and begins with a digit in
either case. -/
theorem baseOf_cases (cs : List Char) :
    (∃ c base ds, (c, base) ∈ baseLetters ∧ cs = '0' :: c :: ds ∧ baseOf cs = (base, ds)) ∨
      baseOf cs = (10, cs) ∧ ∀ c ds, cs = '0' :: c :: ds → c ∉ ['x', 'o', 'b'] := by
  unfold baseOf
  split
  next ds => exact Or.inl ⟨'x', 16, ds, by decide, rfl, rfl⟩
  next ds => exact Or.inl ⟨'o', 8, ds, by decide, rfl, rfl⟩
  next ds => exact Or.inl ⟨'b', 2, ds, by decide, rfl, rfl⟩
  next hx ho hb =>
    refine Or.inr ⟨rfl, ?_⟩
    rintro c ds rfl hmem
    simp only [List.mem_cons, List.not_mem_nil, or_false] at hmem
    rcases hmem with rfl | rfl | rfl
    · exact hx _ rfl
    · exact ho _ rfl
    · exact hb _ rfl

/-- What the digits of an integer have to be. -/
def areDigits (base : Nat) (run : List Char) : Bool :=
  run.all (fun c => c == '_' || (digitValue? c).any (· < base)) &&
    (base ≠ 10 || run.head?.any isDigit) && run.any (· != '_')

/-- The digits of an integer, behind the letters of its base, are read up to
a character that is none. -/
theorem afterDigits?_eq {base : Nat} (front : List Char) {run rest : List Char}
    (hbase : baseOf (front ++ (run ++ rest)) = (base, run ++ rest))
    (hrun : ∀ c ∈ run, isDigitOf base c = true)
    (hrest : ∀ c ∈ rest.head?, isDigitOf base c = false) :
    afterDigits? (front ++ (run ++ rest)) = if areDigits base run then some rest else none := by
  unfold afterDigits?
  rw [hbase]
  simp only [takeWhile_append_of_all hrun hrest, dropWhile_append_of_all hrun hrest]
  cases run with
  | nil => simp [areDigits]
  | cons c run => rfl

/-- An integer in its parts behind the letters of its base: its digits and
its suffix. It ends before any stop, if its base is told alike. -/
theorem exists_afterInteger? {base : Nat} (front : List Char) {ds rest : List Char}
    (hbase : baseOf (front ++ ds) = (base, ds)) (h : afterInteger? (front ++ ds) = some rest) :
    ∃ run w, ds = run ++ (w ++ rest) ∧ areDigits base run = true ∧
      (∀ c ∈ run, isDigitOf base c = true) ∧ (∀ c ∈ (w ++ rest).head?, isDigitOf base c = false) ∧
      (w = [] ∨ IsWord w) ∧ EndsWord rest ∧
      ∀ k, Stops k → baseOf (front ++ (run ++ (w ++ k))) = (base, run ++ (w ++ k)) →
        afterInteger? (front ++ (run ++ (w ++ k))) = some k := by
  obtain ⟨after, hdigits, hfinish⟩ := Option.bind_eq_some_iff.mp h
  have hrun : ∀ c ∈ ds.takeWhile (isDigitOf base), isDigitOf base c = true :=
    List.all_eq_true.mp List.all_takeWhile
  have hrest := head?_dropWhile (p := isDigitOf base) ds
  have hds : ds.takeWhile (isDigitOf base) ++ ds.dropWhile (isDigitOf base) = ds :=
    List.takeWhile_append_dropWhile
  have hread := afterDigits?_eq front (by rw [hds]; exact hbase) hrun hrest
  rw [hds, hdigits] at hread
  split at hread
  next hare =>
    obtain rfl := Option.some.inj hread
    obtain ⟨w, hw, hword, hend, hstop⟩ := exists_finish? hfinish
    rw [hw] at hds hrest
    refine ⟨_, w, hds.symm, hare, hrun, hrest, hword, hend, fun k hk hbase' => ?_⟩
    -- Without a suffix the stop itself ends the digits.
    have hrest' : ∀ c ∈ (w ++ k).head?, isDigitOf base c = false := by
      cases w with
      | nil => exact hk.not_digitOf base
      | cons c w => exact hrest
    rw [afterInteger?, afterDigits?_eq front hbase' hrun hrest', if_pos hare]
    exact hstop k hk
  next => cases hread

/-- The base of a number is told by its first two characters, and no stop is
the letter of one. -/
theorem baseOf_ten {run w r k : List Char} (hrun : run ≠ []) (hk : Stops k)
    (h : ∀ c ds, run ++ (w ++ r) = '0' :: c :: ds → c ∉ ['x', 'o', 'b']) :
    baseOf (run ++ (w ++ k)) = (10, run ++ (w ++ k)) := by
  rcases baseOf_cases (run ++ (w ++ k)) with ⟨c, base, ds, hmem, hcs, -⟩ | ⟨hten, -⟩
  · exfalso
    have hc : c ∈ ['x', 'o', 'b'] := List.mem_map_of_mem (f := Prod.fst) hmem
    -- The letter would be a digit, the first of the suffix, or the first behind the number.
    match run, w with
    | d :: e :: run, _ =>
      simp only [List.cons_append, List.cons.injEq] at hcs
      obtain ⟨rfl, rfl, -⟩ := hcs
      exact h _ _ rfl hc
    | [d], e :: w =>
      simp only [List.cons_append, List.nil_append, List.cons.injEq] at hcs
      obtain ⟨rfl, rfl, -⟩ := hcs
      exact h _ _ rfl hc
    | [d], [] =>
      simp only [List.cons_append, List.nil_append, List.cons.injEq] at hcs
      obtain ⟨-, rfl⟩ := hcs
      have := (stops_spec (hk c rfl)).2.2.2.2
      simp_all
  · exact hten

/-- A number in another base is no floating number. -/
theorem afterFloat?_letter {c : Char} {base : Nat} (h : (c, base) ∈ baseLetters) (ds : List Char) :
    afterFloat? ('0' :: c :: ds) = none := by
  have hzero : IsDigits ['0'] := ⟨List.all_eq_true.mp (by decide), by decide⟩
  have all : baseLetters.all (fun e => !isDigitOrGap e.1 && !(['e', 'E', '.'].contains e.1)) =
      true := by rfl
  have hc := List.all_eq_true.mp all _ h
  simp only [Bool.and_eq_true, Bool.not_eq_true', ← Bool.not_eq_true, List.contains_iff_mem,
    List.mem_cons, List.not_mem_nil, or_false, not_or] at hc
  have hread : afterFloatDigits? (['0'] ++ c :: ds) = afterMantissa? none (c :: ds) := by
    refine afterFloatDigits?_noPoint hzero ?_ ?_
    · intro d hd
      obtain rfl := Option.some.inj hd
      simpa using hc.1
    · intro hpoint
      exact hc.2.2.2 (Option.some.inj hpoint)
  have hnone : afterMantissa? none (c :: ds) = none := by
    refine afterMantissa?_other fun d hd => ?_
    obtain rfl := Option.some.inj hd
    simp [hc.2.1, hc.2.2.1]
  rw [afterFloat?]
  show (afterFloatDigits? (['0'] ++ c :: ds)).bind finish? = none
  rw [hread, hnone]
  rfl

/-- Digits and a suffix that no floating number begins with do not begin one
before a stop. -/
theorem afterFloat?_eq_none {g w rest k : List Char} (hg : IsDigits g)
    (hw : w = [] ∨ IsWord w) (hu : EndsDigits (w ++ rest)) (hrest : EndsWord rest) (hk : Stops k)
    (h : afterFloat? (g ++ (w ++ rest)) = none) : afterFloat? (g ++ (w ++ k)) = none := by
  have hpoint := (opensWord_of_isWord hw).not_point hk
  have hends := endsDigits_append hu hk.endsWord.endsDigits
  rw [afterFloat?, afterFloatDigits?_noPoint hg hends hpoint]
  rcases hw with rfl | ⟨c, x, rfl, hstart, hcontinue⟩
  · rw [List.nil_append, afterMantissa?_other fun c hc => (hk.not_letter c hc).1]
    rfl
  -- Only a suffix that begins with the letter of an exponent can be taken for one.
  by_cases hletter : c ∈ ['e', 'E']
  · have hno : (c :: x ++ rest).head? ≠ some '.' := by
      intro hdot
      obtain rfl := Option.some.inj hdot
      exact absurd hletter (by decide)
    rw [afterFloat?, afterFloatDigits?_noPoint hg hu hno, List.cons_append,
      afterMantissa?_letter hletter, Option.or_none] at h
    rw [List.cons_append, afterMantissa?_letter hletter, Option.or_none]
    cases hexponent : afterExponent? (x ++ rest) with
    | none => rw [afterExponent?_eq_none hcontinue hrest hk hexponent]; rfl
    | some after =>
      rw [hexponent] at h
      cases hexponent' : afterExponent? (x ++ k) with
      | none => rfl
      | some after' =>
        exact finish?_eq_none_of_afterExponent? hcontinue hrest hk hexponent h hexponent'
  · rw [afterMantissa?_other]
    · rfl
    · intro d hd
      obtain rfl := Option.some.inj hd
      exact hletter

/-- A number that is an integer ends before any stop. -/
theorem afterNumber?_endsAt {cs rest : List Char} (h : afterInteger? cs = some rest)
    (hfloat : afterFloat? cs = none) :
    EndsAt (fun cs => (afterFloat? cs).or (afterInteger? cs)) cs rest := by
  rcases baseOf_cases cs with ⟨c, base, ds, hmem, rfl, hbase⟩ | ⟨hbase, hletters⟩
  · -- The letter of a base in front tells the base, whatever stands behind the number.
    have hbase' : ∀ ds, baseOf (['0', c] ++ ds) = (base, ds) := by
      intro ds
      simp only [baseLetters, List.mem_cons, Prod.mk.injEq, List.not_mem_nil, or_false] at hmem
      rcases hmem with ⟨rfl, rfl⟩ | ⟨rfl, rfl⟩ | ⟨rfl, rfl⟩ <;> rfl
    obtain ⟨run, w, rfl, -, -, -, -, -, hend⟩ :=
      exists_afterInteger? ['0', c] (hbase' ds) h
    refine ⟨'0' :: c :: (run ++ w), by simp, fun k hk => ?_⟩
    have hread := hend k hk (hbase' _)
    simp only [List.cons_append, List.nil_append] at hread
    simp [List.append_assoc, afterFloat?_letter hmem, hread]
  · obtain ⟨run, w, rfl, hare, hrun, hrest, hw, hword, hend⟩ :=
      exists_afterInteger? [] hbase h
    have hg : IsDigits run := by
      refine ⟨fun c hc => by rw [← isDigitOf_ten]; exact hrun c hc, ?_⟩
      simp only [areDigits, Bool.and_eq_true] at hare
      simpa using hare.1.2
    have hne : run ≠ [] := by
      rintro rfl
      exact Bool.noConfusion hg.2
    have hu : EndsDigits (w ++ rest) := fun c hc => by rw [← isDigitOf_ten]; exact hrest c hc
    -- In base ten the number could still become a floating one before another stop.
    refine ⟨run ++ w, by simp, fun k hk => ?_⟩
    have hten : baseOf (run ++ (w ++ k)) = (10, run ++ (w ++ k)) := baseOf_ten hne hk hletters
    have hread := hend k hk hten
    rw [List.nil_append] at hread
    simp only [List.append_assoc, afterFloat?_eq_none hg hw hu hword hk hfloat, Option.none_or,
      hread]

/-! ### Literals -/

/-- A number begins with a digit. -/
theorem isDigit_of_afterNumber? {cs k : List Char}
    (h : (afterFloat? cs).or (afterInteger? cs) = some k) : cs.head?.any isDigit = true := by
  rcases Option.or_eq_some_iff.mp h with hfloat | ⟨-, hinteger⟩
  · rw [afterFloat?, afterFloatDigits?] at hfloat
    split at hfloat
    next hdigit => exact hdigit
    next => cases hfloat
  · rcases baseOf_cases cs with ⟨c, base, ds, -, rfl, -⟩ | ⟨hbase, -⟩
    · rfl
    · obtain ⟨after, hdigits, -⟩ := Option.bind_eq_some_iff.mp hinteger
      rw [afterDigits?, hbase] at hdigits
      simp only at hdigits
      split at hdigits
      next hstarts =>
        simp only [Bool.and_eq_true] at hstarts
        simpa using hstarts.1.2
      next => cases hdigits

/-- A digit is none of some characters that are no digits. -/
theorem not_mem_of_isDigit {c : Char} {cs : List Char} (hc : isDigit c = true)
    (h : cs.all (fun d => !isDigit d) = true) : c ∉ cs := by
  intro hmem
  have hnot := List.all_eq_true.mp h c hmem
  rw [hc] at hnot
  cases hnot

/-- What begins with a digit is no string and no character. -/
theorem afterString?_or_of_isDigit {cs : List Char} (h : cs.head?.any isDigit = true) :
    afterString? cs = none ∧ afterCharacter? cs = none := by
  cases cs with
  | nil => cases h
  | cons c cs =>
    have hc : isDigit c = true := h
    have hne : c ∉ ['"', 'r', 'b', 'c', '\''] := not_mem_of_isDigit hc (by decide)
    simp only [List.mem_cons, List.not_mem_nil, or_false, not_or] at hne
    constructor
    · unfold afterString?
      split <;> simp_all
    · unfold afterCharacter?
      split <;> simp_all

/-- No number begins with anything but a digit. -/
theorem afterNumber?_eq_none {c : Char} (h : isDigit c = false) (x : List Char) :
    (afterFloat? (c :: x)).or (afterInteger? (c :: x)) = none := by
  cases hread : (afterFloat? (c :: x)).or (afterInteger? (c :: x)) with
  | none => rfl
  | some k =>
    have hdigit : isDigit c = true := isDigit_of_afterNumber? hread
    rw [h] at hdigit
    cases hdigit

/-- A byte or a character is no string. -/
theorem afterString?_eq_none {cs k : List Char} (h : afterCharacter? cs = some k) :
    afterString? cs = none := by
  unfold afterCharacter? at h
  split at h
  next => rfl
  next => rfl
  next => cases h

/-- A literal that the lexer reads is read back before any stop. -/
theorem afterLiteral?_endsAt {cs rest : List Char} (h : afterLiteral? cs = some rest) :
    EndsAt afterLiteral? cs rest := by
  rcases Option.or_eq_some_iff.mp h with hstring | ⟨-, h⟩
  · obtain ⟨s, rfl, hs⟩ := afterString?_endsAt hstring
    exact ⟨s, rfl, fun k hk => by rw [afterLiteral?, hs k hk]; rfl⟩
  rcases Option.or_eq_some_iff.mp h with hcharacter | ⟨-, h⟩
  · obtain ⟨s, rfl, hs⟩ := afterCharacter?_endsAt hcharacter
    refine ⟨s, rfl, fun k hk => ?_⟩
    rw [afterLiteral?, afterString?_eq_none (hs k hk), hs k hk]
    rfl
  have hnumber : EndsAt (fun cs => (afterFloat? cs).or (afterInteger? cs)) cs rest := by
    rcases Option.or_eq_some_iff.mp h with hfloat | ⟨hfloat, hinteger⟩
    · obtain ⟨s, rfl, hs⟩ := afterFloat?_endsAt hfloat
      exact ⟨s, rfl, fun k hk => by simp only [hs k hk, Option.some_or]⟩
    · exact afterNumber?_endsAt hinteger hfloat
  obtain ⟨s, rfl, hs⟩ := hnumber
  refine ⟨s, rfl, fun k hk => ?_⟩
  obtain ⟨hstring, hcharacter⟩ := afterString?_or_of_isDigit (isDigit_of_afterNumber? (hs k hk))
  rw [afterLiteral?, hstring, hcharacter, Option.none_or, Option.none_or]
  exact hs k hk

/-- Digits make up a number in decimal. -/
theorem areDigits_ten {run : List Char} (hne : run ≠ []) (h : ∀ c ∈ run, isDigit c = true) :
    areDigits 10 run = true := by
  have hfits : ∀ c ∈ run, (c == '_' || (digitValue? c).any (· < 10)) = true := by
    intro c hc
    have hvalue : digitValue? c = some (c.toNat - '0'.toNat) := by
      rw [digitValue?, if_pos (h c hc)]
    have hle : c.toNat ≤ 57 := by
      have hc' := h c hc
      simp only [isDigit, Bool.and_eq_true, decide_eq_true_eq, Char.le_def,
        UInt32.le_iff_toNat_le] at hc'
      exact hc'.2
    have hlt : c.toNat - '0'.toNat < 10 := by
      show c.toNat - 48 < 10
      omega
    rw [hvalue, Option.any_some, decide_eq_true hlt, Bool.or_true]
  obtain ⟨c, cs, rfl⟩ := List.exists_cons_of_ne_nil hne
  have hc := h c List.mem_cons_self
  have hgap : c ≠ '_' := by
    rintro rfl
    exact absurd hc (by decide)
  simp [areDigits, hc, hgap, List.all_eq_true.mpr hfits]

/-- Digits before a stop are an integer. -/
theorem afterInteger?_digits {run k : List Char} (hrun : ∀ c ∈ run, isDigit c = true)
    (hg : IsDigits run) (hne : run ≠ []) (hk : Stops k) : afterInteger? (run ++ k) = some k := by
  -- No digit is the letter of another base, so the base is ten.
  have hten : baseOf (run ++ k) = (10, run ++ k) := by
    refine baseOf_ten (w := []) (r := []) hne hk fun c ds heq hmem => ?_
    rw [List.nil_append, List.append_nil] at heq
    have hc : isDigit c = true := hrun c (by rw [heq]; simp)
    exact not_mem_of_isDigit hc (by decide) hmem
  have hread := afterDigits?_eq [] hten (fun c hc => by rw [isDigitOf_ten]; exact hg.1 c hc)
    (hk.not_digitOf 10)
  rw [List.nil_append, if_pos (areDigits_ten hne hrun)] at hread
  rw [afterInteger?, hread]
  exact finish?_of_endsWord hk.endsWord

/-- Digits before a stop are no floating number, as there is neither a point nor
an exponent behind them. -/
theorem afterFloat?_digits {run k : List Char} (hg : IsDigits run) (hk : Stops k) :
    afterFloat? (run ++ k) = none := by
  have hpoint : k.head? ≠ some '.' := fun hhead => (hk.not_letter '.' hhead).2 rfl
  rw [afterFloat?, afterFloatDigits?_noPoint hg hk.endsWord.endsDigits hpoint,
    afterMantissa?_other fun c hc => (hk.not_letter c hc).1]
  rfl

/-- A number in decimal is a literal that ends before any stop. -/
theorem afterLiteral?_repr (n : Nat) {k : List Char} (hk : Stops k) :
    afterLiteral? ((Nat.repr n).toList ++ k) = some k := by
  have hdigit : ∀ c ∈ Nat.toDigits 10 n, isDigit c = true := by
    intro c hc
    have := Nat.isDigit_of_mem_toDigits (by decide) (by decide) hc
    simpa [Char.isDigit, isDigit, Char.le_def] using this
  have hne : Nat.toDigits 10 n ≠ [] := Nat.toDigits_ne_nil
  rw [Nat.toList_repr]
  generalize Nat.toDigits 10 n = run at hdigit hne
  have hg : IsDigits run := by
    refine ⟨fun c hc => by simp [isDigitOrGap, hdigit c hc], ?_⟩
    obtain ⟨c, cs, rfl⟩ := List.exists_cons_of_ne_nil hne
    exact hdigit c List.mem_cons_self
  have hnumber : (afterFloat? (run ++ k)).or (afterInteger? (run ++ k)) = some k := by
    rw [afterFloat?_digits hg hk, afterInteger?_digits hdigit hg hne hk]
    rfl
  obtain ⟨hstring, hcharacter⟩ := afterString?_or_of_isDigit (isDigit_of_afterNumber? hnumber)
  rw [afterLiteral?, hstring, hcharacter]
  exact hnumber

end EnumCompanion.Token
