import EnumCompanion.Proofs.Token.Clean

/-!
# `EnumCompanion.Proofs.Token.Lexeme`: one lexeme at a time

What the lexer makes of the next characters depends on those behind them,
but on few of them only. There is one lemma here for each kind of lexeme;
its hypotheses say what may stand behind.

* `nextLexemes?_ident`: names, before what ends them.
* `nextLexemes?_literal`: literals, before a stop.
* `nextLexemes?_punct`: marks, joint if another one follows.
* `nextLexemes?_quote`: the quote of a lifetime, before a name that no
  quote ends.
* `nextLexemes?_opening`, `nextLexemes?_closing`, `nextLexemes?_blank`:
  delimiters and blanks.
-/

set_option autoImplicit false

namespace EnumCompanion.Token

open EnumCompanion.Text

/-! ### Which kind of lexeme is ahead -/

/-- A character of a word is no blank, no slash and no delimiter. -/
theorem start_spec {c : Char} (h : isIdentifierStart c = true) :
    isLexicalBlank c = false ∧ c ∉ specials := by
  refine ⟨?_, not_special_of_continue (continue_of_start h)⟩
  cases hblank : isLexicalBlank c with
  | false => rfl
  | true => rw [not_start_of_blank hblank] at h; cases h

/-- A digit is no blank and no special character. -/
theorem digit_spec {c : Char} (h : Number.isDigit c = true) :
    isLexicalBlank c = false ∧ c ∉ specials := by
  have hgap : Number.isDigitOrGap c = true := by simp [Number.isDigitOrGap, h]
  refine ⟨?_, not_special_of_continue (continue_of_isDigitOrGap hgap)⟩
  cases hblank : isLexicalBlank c with
  | false => rfl
  | true =>
    simp only [Number.isDigit, Bool.and_eq_true, decide_eq_true_eq, Char.le_def,
      UInt32.le_iff_toNat_le] at h
    have hlow : 48 ≤ c.toNat := h.1
    have hhigh : c.toNat ≤ 57 := h.2
    have hmem := mem_blanks hblank
    simp only [blanks, List.mem_cons, List.not_mem_nil, or_false] at hmem
    omega

/-- A mark is special; it begins no literal unless it is a quote. -/
theorem mark_spec {c : Char} (h : isMark c = true) :
    isLexicalBlank c = false ∧ c ∈ specials ∧ c ∉ delimiters ∧
      Number.isDigit c = false ∧ (c = '\'' ∨ c ∉ literalStarts) := by
  have all : "~!@#$%^&*-=+|;:,<.>/?'".toList.all (fun c => !isLexicalBlank c &&
      specials.contains c && !delimiters.contains c &&
      !Number.isDigit c && (c == '\'' || !literalStarts.contains c)) = true := by
    rfl
  have hc := List.all_eq_true.mp all c (List.contains_iff_mem.mp h)
  simpa only [Bool.and_eq_true, Bool.or_eq_true, beq_iff_eq, Bool.not_eq_true', and_assoc,
    ← Bool.not_eq_true, List.contains_iff_mem] using hc

/-- What is not special is no mark. -/
theorem not_isMark {c : Char} (h : c ∉ specials) : isMark c = false := by
  cases hc : isMark c with
  | false => rfl
  | true => exact absurd (mark_spec hc).2.1 h

/-- Whether a mark starts at a character that begins no comment is told by
the character. -/
theorem startsWithMark_cons {c : Char} {x : List Char}
    (h : c = '/' → ∀ d ∈ x.head?, d ≠ '/' ∧ d ≠ '*') : startsWithMark (c :: x) = isMark c := by
  unfold startsWithMark
  split
  next heq =>
    obtain ⟨rfl, rfl⟩ := List.cons.inj heq
    exact absurd rfl (h rfl '/' rfl).1
  next heq =>
    obtain ⟨rfl, rfl⟩ := List.cons.inj heq
    exact absurd rfl (h rfl '*' rfl).2
  next heq =>
    obtain ⟨rfl, rfl⟩ := List.cons.inj heq
    rfl
  next heq => cases heq

/-- No comment starts at a character other than a slash. -/
theorem comment?_of_ne {c : Char} (h : c ≠ '/') (x : List Char) : comment? (c :: x) = none := by
  unfold comment?
  split <;> simp_all

/-- No comment starts at a slash before another character than a slash or a
star. -/
theorem comment?_slash {x : List Char} (h : ∀ d ∈ x.head?, d ≠ '/' ∧ d ≠ '*') :
    comment? ('/' :: x) = none := by
  cases x with
  | nil => rfl
  | cons d x =>
    obtain ⟨hslash, hstar⟩ := h d rfl
    unfold comment?
    split <;> simp_all

/-- A character that opens and closes no group is none of the delimiters. -/
theorem opening?_closing? {c : Char} (h : c ∉ delimiters) :
    opening? c = none ∧ closing? c = none := by
  simp only [delimiters, List.mem_cons, List.not_mem_nil, or_false, not_or] at h
  constructor
  · unfold opening?
    split <;> simp_all
  · unfold closing?
    split <;> simp_all

/-- Only a parenthesis and the beginning of a comment begin what no tool
could expand. -/
theorem unexpanded_isPrefixOf {c : Char} {x : List Char}
    (h : c = '(' → ∀ y, x ≠ '/' :: '*' :: y) : unexpanded.isPrefixOf (c :: x) = false := by
  cases hprefix : unexpanded.isPrefixOf (c :: x) with
  | false => rfl
  | true =>
    obtain ⟨y, hy⟩ := List.isPrefixOf_iff_prefix.mp hprefix
    have hspelling : unexpanded = '(' :: '/' :: '*' :: "ERROR*/)".toList := by decide
    rw [hspelling] at hy
    obtain ⟨rfl, rfl⟩ := List.cons.inj hy
    exact absurd rfl (h rfl _)

/-- At a character that is no blank and no delimiter, and where no comment
starts, the lexer reads one token. -/
theorem nextLexemes?_eq_leaf {c : Char} {x : List Char} (hblank : isLexicalBlank c = false)
    (hcomment : comment? (c :: x) = none) (hdelimiter : c ∉ delimiters) :
    nextLexemes? (c :: x) = (leaf? (c :: x)).map fun (t, after) => ([.token t], after) := by
  obtain ⟨hopening, hclosing⟩ := opening?_closing? hdelimiter
  have hunexpanded : unexpanded.isPrefixOf (c :: x) = false := by
    refine unexpanded_isPrefixOf fun hc => ?_
    subst hc
    exact absurd List.mem_cons_self hdelimiter
  simp [nextLexemes?, hblank, hcomment, hunexpanded, hopening, hclosing]

theorem nextLexemes?_leaf {c : Char} {x after : List Char} {t : Token}
    (hblank : isLexicalBlank c = false) (hcomment : comment? (c :: x) = none)
    (hdelimiter : c ∉ delimiters) (h : leaf? (c :: x) = some (t, after)) :
    nextLexemes? (c :: x) = some ([.token t], after) := by
  rw [nextLexemes?_eq_leaf hblank hcomment hdelimiter, h]
  rfl

/-! ### Blanks and delimiters -/

/-- A blank is passed over. -/
theorem nextLexemes?_blank (x : List Char) : nextLexemes? (' ' :: x) = some ([], x) := by
  have hblank : isLexicalBlank ' ' = true := by rfl
  simp [nextLexemes?, hblank]

/-- An opening delimiter is read, unless a comment behind it makes it the
beginning of what no tool could expand. -/
theorem nextLexemes?_opening (d : Delimiter) {x : List Char}
    (h : ∀ y, x ≠ '/' :: '*' :: y) :
    nextLexemes? (d.opening.toList ++ x) = some ([.opening d], x) := by
  obtain ⟨c, hc, hblank, hslash, hopening⟩ : ∃ c, d.opening.toList = [c] ∧
      isLexicalBlank c = false ∧ c ≠ '/' ∧ opening? c = some d := by
    cases d with
    | parenthesis => exact ⟨'(', rfl, by rfl, by decide, rfl⟩
    | bracket => exact ⟨'[', rfl, by rfl, by decide, rfl⟩
    | brace => exact ⟨'\x7b', rfl, by rfl, by decide, rfl⟩
  rw [hc, List.singleton_append]
  simp [nextLexemes?, hblank, comment?_of_ne hslash, unexpanded_isPrefixOf fun _ => h, hopening]

/-- A closing delimiter is read. -/
theorem nextLexemes?_closing (d : Delimiter) (x : List Char) :
    nextLexemes? (d.closing.toList ++ x) = some ([.closing d], x) := by
  obtain ⟨c, hc, hblank, hslash, hparenthesis, hopening, hclosing⟩ : ∃ c, d.closing.toList = [c] ∧
      isLexicalBlank c = false ∧ c ≠ '/' ∧ c ≠ '(' ∧ opening? c = none ∧ closing? c = some d := by
    cases d with
    | parenthesis => exact ⟨')', rfl, by rfl, by decide, by decide, rfl, rfl⟩
    | bracket => exact ⟨']', rfl, by rfl, by decide, by decide, rfl, rfl⟩
    | brace => exact ⟨'\x7d', rfl, by rfl, by decide, by decide, rfl, rfl⟩
  rw [hc, List.singleton_append]
  simp [nextLexemes?, hblank, comment?_of_ne hslash,
    unexpanded_isPrefixOf fun h => absurd h hparenthesis, hopening, hclosing]

/-! ### Names -/

/-- What is left of a word and a stop behind some of its characters begins
with no quote and no hash. -/
theorem head_of_word {w k l y : List Char} (hw : ∀ d ∈ w, isIdentifierContinue d = true)
    (hk : EndsName k) (hl : ∀ d ∈ l, isIdentifierContinue d = true) (h : w ++ k = l ++ y) :
    ∀ d ∈ y.head?, d ∉ ['"', '#', '\''] := by
  induction l generalizing w with
  | nil =>
    intro d hd
    rw [List.nil_append] at h
    subst h
    cases w with
    | nil => exact (hk d hd).2
    | cons e w =>
      obtain rfl := Option.some.inj hd
      have hspecial := not_special_of_continue (hw e List.mem_cons_self)
      have hquotes : ∀ q ∈ ['"', '#', '\''], q ∈ specials := forall_mem_of_all rfl
      exact fun hmem => hspecial (hquotes e hmem)
  | cons e l ih =>
    cases w with
    | nil =>
      -- What stands behind the word does not go on it, so it is not one of the characters.
      rw [List.nil_append] at h
      subst h
      have hend := (hk e rfl).1
      rw [hl e List.mem_cons_self] at hend
      cases hend
    | cons f w =>
      rw [List.cons_append, List.cons_append, List.cons.injEq] at h
      exact ih (fun d hd => hw d (List.mem_cons_of_mem _ hd))
        (fun d hd => hl d (List.mem_cons_of_mem _ hd)) h.2

/-- Without a quote behind its hashes no raw literal opens. -/
theorem readRawOpening_eq_none {f : Flavour} {cs : List Char}
    (h : (cs.dropWhile (· == '#')).head? ≠ some '"') : readRawOpening f cs = none := by
  unfold readRawOpening
  split
  next rest heq =>
    rw [heq] at h
    exact absurd rfl h
  next => rfl

/-- Without a quote or a hash no raw literal goes on. -/
theorem afterRaw?_eq_none {f : Flavour} {x : List Char}
    (h : ∀ d ∈ x.head?, d ∉ ['"', '#', '\'']) : afterRaw? f x = none := by
  cases x with
  | nil => rfl
  | cons d x =>
    have hd := h d rfl
    simp only [List.mem_cons, List.not_mem_nil, or_false, not_or] at hd
    have hdrop : (d :: x).dropWhile (· == '#') = d :: x :=
      List.dropWhile_cons_of_neg (by simp [hd.2.1])
    have hread : readRawOpening f (d :: x) = none :=
      readRawOpening_eq_none (by simp [hdrop, hd.1])
    rw [afterRaw?, hread]
    rfl

/-- An opening of a literal is some letters with a quote or a hash behind. -/
theorem literalOpenings_spec {p : List Char} (h : p ∈ literalOpenings) :
    ∃ l q z, p = l ++ q :: z ∧ (∀ d ∈ l, isIdentifierContinue d = true) ∧
      q ∈ ['"', '#', '\''] := by
  have hr : ∀ d ∈ ['r'], isIdentifierContinue d = true := forall_mem_of_all rfl
  have hb : ∀ d ∈ ['b'], isIdentifierContinue d = true := forall_mem_of_all rfl
  have hbr : ∀ d ∈ ['b', 'r'], isIdentifierContinue d = true := forall_mem_of_all rfl
  have hc : ∀ d ∈ ['c'], isIdentifierContinue d = true := forall_mem_of_all rfl
  have hcr : ∀ d ∈ ['c', 'r'], isIdentifierContinue d = true := forall_mem_of_all rfl
  simp only [literalOpenings, List.mem_cons, List.not_mem_nil, or_false] at h
  rcases h with rfl | rfl | rfl | rfl | rfl | rfl | rfl | rfl | rfl | rfl
  · exact ⟨['r'], '"', [], rfl, hr, by decide⟩
  · exact ⟨['r'], '#', ['"'], rfl, hr, by decide⟩
  · exact ⟨['r'], '#', ['#'], rfl, hr, by decide⟩
  · exact ⟨['b'], '"', [], rfl, hb, by decide⟩
  · exact ⟨['b'], '\'', [], rfl, hb, by decide⟩
  · exact ⟨['b', 'r'], '"', [], rfl, hbr, by decide⟩
  · exact ⟨['b', 'r'], '#', [], rfl, hbr, by decide⟩
  · exact ⟨['c'], '"', [], rfl, hc, by decide⟩
  · exact ⟨['c', 'r'], '"', [], rfl, hcr, by decide⟩
  · exact ⟨['c', 'r'], '#', [], rfl, hcr, by decide⟩

/-- What begins with a character of a word, and whose letters no quote and
no hash follows, is no literal. -/
theorem afterLiteral?_eq_none_of_word {w k : List Char} (hw : IsWord w) (hk : EndsName k) :
    afterLiteral? (w ++ k) = none ∧ literalOpenings.any (·.isPrefixOf (w ++ k)) = false := by
  have hhead := fun l y => head_of_word (l := l) (y := y) (continue_of_isWord hw) hk
  have hr : ∀ d ∈ ['r'], isIdentifierContinue d = true := forall_mem_of_all rfl
  have hb : ∀ d ∈ ['b'], isIdentifierContinue d = true := forall_mem_of_all rfl
  have hbr : ∀ d ∈ ['b', 'r'], isIdentifierContinue d = true := forall_mem_of_all rfl
  have hc : ∀ d ∈ ['c'], isIdentifierContinue d = true := forall_mem_of_all rfl
  have hcr : ∀ d ∈ ['c', 'r'], isIdentifierContinue d = true := forall_mem_of_all rfl
  have hnil : ∀ d ∈ ([] : List Char), isIdentifierContinue d = true := forall_mem_of_all rfl
  constructor
  -- Every kind of string has a quote or a hash behind its letters.
  · have hstring : afterString? (w ++ k) = none := by
      unfold afterString?
      split
      next rest heq => exact absurd (by decide) (hhead [] _ hnil heq '"' rfl)
      next rest heq => exact afterRaw?_eq_none (hhead ['r'] _ hr heq)
      next rest heq => exact absurd (by decide) (hhead ['b'] _ hb heq '"' rfl)
      next rest heq => exact afterRaw?_eq_none (hhead ['b', 'r'] _ hbr heq)
      next rest heq => exact absurd (by decide) (hhead ['c'] _ hc heq '"' rfl)
      next rest heq => exact afterRaw?_eq_none (hhead ['c', 'r'] _ hcr heq)
      next => rfl
    have hcharacter : afterCharacter? (w ++ k) = none := by
      unfold afterCharacter?
      split
      next rest heq => exact absurd (by decide) (hhead ['b'] _ hb heq '\'' rfl)
      next rest heq => exact absurd (by decide) (hhead [] _ hnil heq '\'' rfl)
      next => rfl
    have hnumber : (Number.afterFloat? (w ++ k)).or (Number.afterInteger? (w ++ k)) = none := by
      obtain ⟨c, cs, rfl, hstart, -⟩ := hw
      exact afterNumber?_eq_none (isDigit_of_start hstart) (cs ++ k)
    rw [afterLiteral?, hstring, hcharacter, hnumber]
    rfl
  · rw [List.any_eq_false]
    intro p hp hprefix
    obtain ⟨y, hy⟩ := List.isPrefixOf_iff_prefix.mp hprefix
    obtain ⟨l, q, z, rfl, hl, hq⟩ := literalOpenings_spec hp
    rw [List.append_assoc] at hy
    exact hhead l _ hl hy.symm q rfl hq

/-- A raw name is not the beginning of a literal. -/
theorem afterLiteral?_eq_none_of_raw {w : List Char} (hw : IsWord w) (k : List Char) :
    afterLiteral? ('r' :: '#' :: (w ++ k)) = none ∧
      literalOpenings.any (·.isPrefixOf ('r' :: '#' :: (w ++ k))) = false := by
  obtain ⟨c, cs, rfl, hstart, -⟩ := hw
  have hspecial := not_special_of_continue (continue_of_start hstart)
  have hquote : c ≠ '"' := by
    rintro rfl
    exact hspecial (by decide)
  have hhash : c ≠ '#' := by
    rintro rfl
    exact hspecial (by decide)
  constructor
  · -- A raw string has a quote behind its hashes, and no word begins with one.
    have hread : readRawOpening .text ('#' :: (c :: cs ++ k)) = none :=
      readRawOpening_eq_none (by simp [hhash, hquote])
    have hstring : afterString? ('r' :: '#' :: (c :: cs ++ k)) = none := by
      show (readRawOpening .text ('#' :: (c :: cs ++ k))).map _ = none
      rw [hread]
      rfl
    rw [afterLiteral?, hstring, afterNumber?_eq_none (by decide)]
    rfl
  · simp [literalOpenings, List.isPrefixOf_cons_cons, Ne.symm hquote, Ne.symm hhash]

/-- A name is read up to what ends it. -/
theorem nextLexemes?_ident {i : Ident} (h : i.IsLexed) {k : List Char} (hk : EndsName k) :
    nextLexemes? (i.text.toList ++ k) = some ([.token (.ident i)], k) := by
  obtain ⟨hliteral, hopenings⟩ : afterLiteral? (i.text.toList ++ k) = none ∧
      literalOpenings.any (·.isPrefixOf (i.text.toList ++ k)) = false := by
    obtain ⟨raw, name⟩ := i
    cases raw with
    | false => exact afterLiteral?_eq_none_of_word h.1 hk
    | true =>
      have htext : (Ident.text ⟨true, name⟩).toList ++ k = 'r' :: '#' :: (name.toList ++ k) := by
        simp [Ident.text]
      rw [htext]
      exact afterLiteral?_eq_none_of_raw h.1 k
  have hhash : k.head? ≠ some '#' := by
    intro hhead
    exact absurd (hk '#' hhead).2 (by decide)
  have hread := anyIdent?_text h hk.endsWord hhash
  obtain ⟨c, x, htext, hstart, -⟩ := exists_start_of_isLexed h
  obtain ⟨hblank, hspecial⟩ := start_spec hstart
  have hne : ∀ d ∈ specials, c ≠ d := fun d hd hcd => hspecial (hcd ▸ hd)
  rw [htext, List.cons_append] at hliteral hopenings hread ⊢
  refine nextLexemes?_leaf hblank (comment?_of_ne (hne _ (by decide)) _) ?_ ?_
  · exact fun hmem => hspecial (special_of_delimiter c hmem)
  -- It is neither a literal nor a mark, so it is read as an identifier.
  · have hpunct : punct? (c :: (x ++ k)) = none := by
      have hslash : c = '/' → ∀ d ∈ (x ++ k).head?, d ≠ '/' ∧ d ≠ '*' :=
        fun hc => absurd hc (hne _ (by decide))
      unfold punct?
      split
      next heq => exact absurd (List.cons.inj heq).1 (hne _ (by decide))
      next heq =>
        obtain ⟨rfl, rfl⟩ := List.cons.inj heq
        rw [startsWithMark_cons hslash, not_isMark hspecial]
        rfl
      next heq => cases heq
    simp [leaf?, hliteral, hpunct, ident?, hopenings, hread]

/-! ### Literals -/

/-- No literal begins like a blank, a comment or a group. -/
theorem literalStart_spec {c : Char} (h : c ∈ literalStarts ∨ Number.isDigit c = true) :
    isLexicalBlank c = false ∧ c ≠ '/' ∧ c ∉ delimiters := by
  rcases h with hc | hc
  · have all : literalStarts.all (fun c => !isLexicalBlank c && c != '/' &&
        !delimiters.contains c) = true := by rfl
    have := List.all_eq_true.mp all c hc
    simpa only [Bool.and_eq_true, bne_iff_ne, Bool.not_eq_true', and_assoc,
      ← Bool.not_eq_true, List.contains_iff_mem] using this
  · obtain ⟨hblank, hspecial⟩ := digit_spec hc
    have hslash : '/' ∈ specials := by decide
    exact ⟨hblank, fun h => hspecial (h ▸ hslash), fun h => hspecial (special_of_delimiter c h)⟩

/-- A literal is read before a stop. -/
theorem nextLexemes?_literal {s : String} (h : IsLiteral s) {k : List Char} (hk : Stops k) :
    nextLexemes? (s.toList ++ k) = some ([.token (.literal s)], k) := by
  rcases h with hs | hs
  · have hspelling : unexpanded ++ k = '(' :: (unexpanded.tail ++ k) := rfl
    have hblank : isLexicalBlank '(' = false := by rfl
    have hprefix : unexpanded.isPrefixOf (unexpanded ++ k) = true :=
      List.isPrefixOf_iff_prefix.mpr (List.prefix_append _ _)
    have hdrop : (unexpanded ++ k).drop unexpanded.length = k := List.drop_left
    have hname : String.ofList unexpanded = s := by rw [← hs, String.ofList_toList]
    rw [hs]
    rw [hspelling] at hprefix hdrop ⊢
    simp [nextLexemes?, hblank, comment?_of_ne, hprefix, hdrop, hname]
  · have hread := hs k hk
    obtain ⟨c, x, hx, hc⟩ := exists_start_of_afterLiteral? hread
    have hspec := literalStart_spec hc
    have htake : String.ofList ((s.toList ++ k).take ((s.toList ++ k).length - k.length)) = s := by
      rw [take_length_sub, String.ofList_toList]
    have hleaf : leaf? (s.toList ++ k) = some (.literal s, k) := by
      rw [leaf?, hread]
      simp only [htake]
    rw [hx] at hleaf ⊢
    exact nextLexemes?_leaf hspec.1 (comment?_of_ne hspec.2.1 x) hspec.2.2 hleaf

/-! ### Marks -/

/-- What begins neither with a letter or a quote of literals nor with a digit
is no literal. -/
theorem afterLiteral?_eq_none {c : Char} (h : c ∉ literalStarts) (hdigit : Number.isDigit c = false)
    (x : List Char) : afterLiteral? (c :: x) = none := by
  cases hread : afterLiteral? (c :: x) with
  | none => rfl
  | some after =>
    obtain ⟨d, y, heq, hd⟩ := exists_start_of_afterLiteral? hread
    obtain ⟨rfl, -⟩ := List.cons.inj heq
    rcases hd with hd | hd
    · exact absurd hd h
    · rw [hdigit] at hd
      cases hd

/-- A mark is read, unless it begins a comment. -/
theorem nextLexemes?_punct {c : Char} (hc : isMark c = true) (hquote : c ≠ '\'') {x : List Char}
    (hslash : c = '/' → ∀ d ∈ x.head?, d ≠ '/' ∧ d ≠ '*') :
    nextLexemes? (c :: x) =
      some ([.token (.punct c (if startsWithMark x then .joint else .alone))], x) := by
  obtain ⟨hblank, -, hdelimiter, hdigit, hstart⟩ := mark_spec hc
  have hliteral := afterLiteral?_eq_none (hstart.resolve_left hquote) hdigit x
  have hcomment : comment? (c :: x) = none := by
    by_cases h : c = '/'
    · subst h
      exact comment?_slash (hslash rfl)
    · exact comment?_of_ne h x
  refine nextLexemes?_leaf hblank hcomment hdelimiter ?_
  have hmark : startsWithMark (c :: x) = true := (startsWithMark_cons hslash).trans hc
  have hpunct : punct? (c :: x) =
      some (.punct c (if startsWithMark x then .joint else .alone), x) := by
    unfold punct?
    split
    next heq => exact absurd (List.cons.inj heq).1 hquote
    next heq =>
      obtain ⟨rfl, rfl⟩ := List.cons.inj heq
      rw [if_pos hmark]
    next heq => cases heq
  rw [leaf?, hliteral]
  simp only [hpunct]

/-- A quote before a name that no quote ends opens no character: a quote would
have to stand behind the first letter. -/
theorem afterCharacter?_ident {i : Ident} (h : i.IsLexed) {after : List Char}
    (hafter : ∀ c ∈ after.head?, c ≠ '\'') :
    afterCharacter? ('\'' :: (i.text.toList ++ after)) = none := by
  obtain ⟨c, y, htext, hstart, hy⟩ := exists_start_of_isLexed h
  have hspecial := not_special_of_continue (continue_of_start hstart)
  have hbackslash : c ≠ '\\' := by
    rintro rfl
    exact hspecial (by decide)
  have hone : afterOne? false (c :: (y ++ after)) = some (y ++ after) := by
    unfold afterOne?
    split <;> simp_all
  -- The second character is one of the name, or stands behind it.
  have hnoquote : ∀ d ∈ (y ++ after).head?, d ≠ '\'' := by
    cases y with
    | nil => exact hafter
    | cons e y =>
      intro d hd
      obtain rfl := Option.some.inj hd
      rcases hy e List.mem_cons_self with hcontinue | rfl
      · rintro rfl
        exact not_special_of_continue hcontinue (by decide)
      · decide
  rw [htext, List.cons_append]
  show (afterOne? false (c :: (y ++ after))).bind afterQuote? = none
  rw [hone]
  show afterQuote? (y ++ after) = none
  unfold afterQuote?
  split
  next heq =>
    rw [heq] at hnoquote
    exact absurd rfl (hnoquote _ rfl)
  next => rfl

/-- The quote of a lifetime is read before a name that no quote ends. -/
theorem nextLexemes?_quote {i : Ident} {x after : List Char} (h : anyIdent? x = some (i, after))
    (hafter : ∀ c ∈ after.head?, c ≠ '\'' ∧ c ≠ '#') :
    nextLexemes? ('\'' :: x) = some ([.token (.punct '\'' .joint)], x) := by
  obtain ⟨hblank, -, hdelimiter, -, -⟩ := mark_spec (c := '\'') (by decide)
  refine nextLexemes?_leaf hblank (comment?_of_ne (by decide) x) hdelimiter ?_
  have hpunct : punct? ('\'' :: x) = some (.punct '\'' .joint, x) := by
    have hquote : after.head? ≠ some '\'' := fun hhead => (hafter _ hhead).1 rfl
    have hhash : after.head? ≠ some '#' := fun hhead => (hafter _ hhead).2 rfl
    simp [punct?, h, hquote, hhash]
  have hliteral : afterLiteral? ('\'' :: x) = none := by
    obtain ⟨hlexed, rfl, -⟩ := isLexed_of_anyIdent? h
    rw [afterLiteral?, afterCharacter?_ident hlexed fun c hc => (hafter c hc).1,
      afterNumber?_eq_none (by decide)]
    rfl
  rw [leaf?, hliteral]
  simp only [hpunct]

end EnumCompanion.Token
