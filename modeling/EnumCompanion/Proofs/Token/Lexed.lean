import EnumCompanion.Proofs.Text.Escape
import EnumCompanion.Proofs.Token.Lexeme

/-!
# `EnumCompanion.Proofs.Token.Lexed`: what the lexer reads is clean

All tokens of a text are clean: a name is one, a literal ends where it
ends, the quote of a lifetime has the name behind it, and no comment
starts at a joint slash.

The last two are about what the lexer reads next. It decides on a quote or
a slash by the characters behind it, and `namesLifetime_lead` and
`followsSlash_lead` say what it makes of these in the next step.

* `leaf?_cases`: how the lexer reads one token.
* `areCleanLexemes_of_next`: one step of the lexer.
* `nestFrom?_areClean`: matching delimiters.
* `lex?_areClean`: the tokens of a text.
-/

set_option autoImplicit false

namespace EnumCompanion.Token

open EnumCompanion.Text

/-! ### Clean lexemes -/

/-- The token that lexemes begin with, if they begin with one. -/
def lead : List Lexeme → List Token
  | .token t :: _ => [t]
  | _ => []

/-- Lexemes of which all tokens are clean, each followed by what it has to
be followed by. -/
def AreCleanLexemes : List Lexeme → Prop
  | [] => True
  | .token t :: ls => t.IsClean ∧ t.Holds (lead ls) ∧ AreCleanLexemes ls
  | _ :: ls => AreCleanLexemes ls

/-! ### Tokens one by one -/

/-- What the lexer reads as a token is a literal that ends where it ends, a
mark, or an identifier. -/
theorem leaf?_cases {cs rest : List Char} {t : Token} (h : leaf? cs = some (t, rest)) :
    (∃ s, t = .literal s ∧ cs = s.toList ++ rest ∧
        ∀ k, Stops k → afterLiteral? (s.toList ++ k) = some k) ∨
      punct? cs = some (t, rest) ∨ ∃ i, t = .ident i ∧ anyIdent? cs = some (i, rest) := by
  unfold leaf? at h
  split at h
  next rest' hliteral =>
    -- The token holds what has been read: all of the text up to the rest.
    obtain ⟨rfl, rfl⟩ := Prod.mk.inj (Option.some.inj h)
    obtain ⟨s, rfl, hs⟩ := afterLiteral?_endsAt hliteral
    rw [take_length_sub]
    exact Or.inl ⟨String.ofList s, rfl, by simp, by simpa using hs⟩
  next =>
    split at h
    next found hpunct => exact Or.inr (Or.inl (h ▸ hpunct))
    next =>
      obtain ⟨⟨i, rest'⟩, hident, hi⟩ := Option.map_eq_some_iff.mp h
      obtain ⟨rfl, rfl⟩ := Prod.mk.inj hi
      unfold ident? at hident
      split at hident
      next => cases hident
      next => exact Or.inr (Or.inr ⟨i, rfl, hident⟩)

/-- A mark is the quote in front of the name of a lifetime, or any other,
which is joint if another one follows. -/
theorem punct?_cases {cs rest : List Char} {t : Token} (h : punct? cs = some (t, rest)) :
    (cs = '\'' :: rest ∧ t = .punct '\'' .joint ∧ ∃ i after, anyIdent? rest = some (i, after) ∧
        after.head? ≠ some '\'' ∧ (after.head? = some '#' → i.raw = true)) ∨
      ∃ c, cs = c :: rest ∧ c ≠ '\'' ∧ startsWithMark (c :: rest) = true ∧
        t = .punct c (if startsWithMark rest then .joint else .alone) := by
  unfold punct? at h
  split at h
  next rest' =>
    -- With a quote behind the name this would be a character, and with a hash a raw name.
    split at h
    next i after hi =>
      split at h
      next => cases h
      next hafter =>
        obtain ⟨rfl, rfl⟩ := Prod.mk.inj (Option.some.inj h)
        simp only [Bool.or_eq_true, beq_iff_eq, Bool.and_eq_true, Bool.not_eq_true', not_or,
          not_and, Bool.not_eq_false] at hafter
        exact Or.inl ⟨rfl, rfl, i, after, hi, hafter.1, hafter.2⟩
    next => cases h
  next c rest' hquote =>
    split at h
    next hmark =>
      obtain ⟨rfl, rfl⟩ := Prod.mk.inj (Option.some.inj h)
      exact Or.inr ⟨c, rfl, fun hc => hquote (hc ▸ rfl), hmark, rfl⟩
    next => cases h
  next => cases h

/-- Where a mark starts, its character is one and no comment starts. -/
theorem startsWithMark_spec {c : Char} {x : List Char} (h : startsWithMark (c :: x) = true) :
    isMark c = true ∧ (c = '/' → ∀ d ∈ x.head?, d ≠ '/' ∧ d ≠ '*') := by
  unfold startsWithMark at h
  split at h
  next => cases h
  next => cases h
  next hslash hstar heq =>
    obtain ⟨rfl, rfl⟩ := List.cons.inj heq
    refine ⟨h, ?_⟩
    rintro rfl d hd
    cases x with
    | nil => cases hd
    | cons e y =>
      obtain rfl := Option.some.inj hd
      exact ⟨fun he => hslash y rfl (by rw [he]), fun he => hstar y rfl (by rw [he])⟩
  next heq => cases heq

/-! ### Behind the quote of a lifetime -/

/-- What is a quote behind some hashes begins with one of the two. -/
theorem head_of_dropHashes {cs x : List Char} (h : cs.dropWhile (· == '#') = '"' :: x) :
    ∃ q y, cs = q :: y ∧ (q = '"' ∨ q = '#' ∧ y.dropWhile (· == '#') = '"' :: x) := by
  cases cs with
  | nil => cases h
  | cons q y =>
    refine ⟨q, y, rfl, ?_⟩
    by_cases hq : q = '#'
    · subst hq
      exact Or.inr ⟨rfl, h⟩
    · rw [List.dropWhile_cons_of_neg (by simpa using hq)] at h
      exact Or.inl (List.cons.inj h).1

/-- A literal without escapes begins with a quote, or with a hash and then
no name. -/
theorem head_of_afterRaw? {f : Flavour} {cs rest : List Char} (h : afterRaw? f cs = some rest) :
    ∃ q y, cs = q :: y ∧ (q = '"' ∨ q = '#' ∧ ∀ k, Number.afterName? (y ++ k) = none) := by
  obtain ⟨⟨v, after⟩, hopening, -⟩ := Option.map_eq_some_iff.mp h
  unfold readRawOpening at hopening
  simp only at hopening
  split at hopening
  next x hx =>
    obtain ⟨q, y, rfl, hq⟩ := head_of_dropHashes hx
    refine ⟨q, y, rfl, hq.imp_right fun ⟨hhash, hy⟩ => ⟨hhash, fun k => ?_⟩⟩
    obtain ⟨q', z, rfl, hq'⟩ := head_of_dropHashes hy
    have hstart : isIdentifierStart q' = false := by
      rcases hq' with rfl | ⟨rfl, -⟩ <;> rfl
    simp [Number.afterName?, hstart]
  next => cases hopening

section

variable {s k after : List Char} {i : Ident}

/-- If the letters in front of a literal are the name of a lifetime, then a
quote follows them. -/
theorem exists_quote_of_letters {w y : List Char} {q : Char} (hw : IsWord w)
    (hq : q ∈ ['"', '#', '\'']) (hraw : ∀ x z, w ++ q :: x ≠ 'r' :: '#' :: z)
    (hi : anyIdent? (w ++ q :: y ++ k) = some (i, after)) (hquote : after.head? ≠ some '\'')
    (hhash : after.head? = some '#' → i.raw = true) :
    ∃ z, anyIdent? (w ++ q :: y) = some (i, '"' :: z) := by
  have hspecials : ∀ d ∈ ['"', '#', '\''], d ∈ specials := forall_mem_of_all rfl
  have hread : ∀ x, anyIdent? (w ++ q :: x) = some (⟨false, String.ofList w⟩, q :: x) := by
    refine fun x => anyIdent?_word hw (fun d hd => ?_) (hraw x)
    obtain rfl := Option.some.inj hd
    exact continue_special (hspecials q hq)
  rw [List.append_assoc, List.cons_append, hread] at hi
  obtain ⟨rfl, rfl⟩ := Prod.mk.inj (Option.some.inj hi)
  simp only [List.mem_cons, List.not_mem_nil, or_false] at hq
  -- Behind the name of a lifetime there is neither a hash nor the quote of a character.
  rcases hq with rfl | rfl | rfl
  · exact ⟨y, hread y⟩
  · cases hhash rfl
  · exact absurd rfl hquote

/-- The letters in front of literals are words. -/
theorem isWord_letters {w : List Char} (h : w ∈ [['r'], ['b'], ['b', 'r'], ['c'], ['c', 'r']]) :
    IsWord w := by
  have hr : isIdentifierContinue 'r' = true := by rfl
  simp only [List.mem_cons, List.not_mem_nil, or_false] at h
  rcases h with rfl | rfl | rfl | rfl | rfl
  · exact ⟨'r', [], rfl, by rfl, nofun⟩
  · exact ⟨'b', [], rfl, by rfl, nofun⟩
  · exact ⟨'b', ['r'], rfl, by rfl, by simpa using hr⟩
  · exact ⟨'c', [], rfl, by rfl, nofun⟩
  · exact ⟨'c', ['r'], rfl, by rfl, by simpa using hr⟩

/-- If a string begins like the name of a lifetime, then a quote follows the
name. -/
theorem exists_quote_of_afterString? (hs : afterString? s = some [])
    (hi : anyIdent? (s ++ k) = some (i, after)) (hquote : after.head? ≠ some '\'')
    (hhash : after.head? = some '#' → i.raw = true) :
    ∃ z, anyIdent? s = some (i, '"' :: z) := by
  have hmarks : ∀ {q : Char} {p : Prop}, q = '"' ∨ q = '#' ∧ p → q ∈ ['"', '#', '\''] := by
    rintro q p (rfl | ⟨rfl, -⟩) <;> decide
  unfold afterString? at hs
  -- One case for each of the openings of a string; the first, a bare quote, begins no name.
  split at hs
  next x =>
    rw [List.cons_append, anyIdent?_eq_none (by rfl)] at hi
    cases hi
  next x =>
    obtain ⟨q, y, rfl, rfl | ⟨rfl, hy⟩⟩ := head_of_afterRaw? hs
    · refine exists_quote_of_letters (w := ['r']) (isWord_letters (by decide)) (by decide) ?_ hi
        hquote hhash
      simp
    · -- No raw name begins with a quote or a hash.
      simp [anyIdent?, hy] at hi
  next x =>
    exact exists_quote_of_letters (w := ['b']) (isWord_letters (by decide)) (by decide) (by simp)
      hi hquote hhash
  next x =>
    obtain ⟨q, y, rfl, hq⟩ := head_of_afterRaw? hs
    exact exists_quote_of_letters (w := ['b', 'r']) (isWord_letters (by decide)) (hmarks hq)
      (by simp) hi hquote hhash
  next x =>
    exact exists_quote_of_letters (w := ['c']) (isWord_letters (by decide)) (by decide) (by simp)
      hi hquote hhash
  next x =>
    obtain ⟨q, y, rfl, hq⟩ := head_of_afterRaw? hs
    exact exists_quote_of_letters (w := ['c', 'r']) (isWord_letters (by decide)) (hmarks hq)
      (by simp) hi hquote hhash
  next => cases hs

/-- If a literal begins like the name of a lifetime, then a quote follows the
name. -/
theorem exists_quote_of_afterLiteral? (hs : afterLiteral? s = some [])
    (hi : anyIdent? (s ++ k) = some (i, after)) (hquote : after.head? ≠ some '\'')
    (hhash : after.head? = some '#' → i.raw = true) :
    ∃ z, anyIdent? s = some (i, '"' :: z) := by
  rcases Option.or_eq_some_iff.mp hs with hstring | ⟨-, hs⟩
  · exact exists_quote_of_afterString? hstring hi hquote hhash
  rcases Option.or_eq_some_iff.mp hs with hcharacter | ⟨-, hnumber⟩
  · unfold afterCharacter? at hcharacter
    split at hcharacter
    next x =>
      exact exists_quote_of_letters (w := ['b']) (isWord_letters (by decide)) (by decide)
        (by simp) hi hquote hhash
    next x =>
      rw [List.cons_append, anyIdent?_eq_none (by rfl)] at hi
      cases hi
    next => cases hcharacter
  · -- A number begins with a digit.
    have hdigit := isDigit_of_afterNumber? hnumber
    cases s with
    | nil => cases hdigit
    | cons c x =>
      have hstart : isIdentifierStart c = false := by
        cases hc : isIdentifierStart c with
        | false => rfl
        | true =>
          have hnone := isDigit_of_start hc
          simp [hnone] at hdigit
      rw [List.cons_append, anyIdent?_eq_none hstart] at hi
      cases hi

end

/-! ### The next step -/

/-- Where a token starts, the lexemes begin with it. -/
theorem exists_lead {c : Char} {x : List Char} {n : Nat} {ls : List Lexeme}
    (hblank : isLexicalBlank c = false) (hcomment : comment? (c :: x) = none)
    (hdelimiter : c ∉ delimiters)
    (h : lexemesWithin? n (c :: x) = some ls) :
    ∃ t rest, leaf? (c :: x) = some (t, rest) ∧ lead ls = [t] := by
  cases n with
  | zero => cases h
  | succ n =>
    rw [lexemesWithin?, nextLexemes?_eq_leaf hblank hcomment hdelimiter] at h
    cases hleaf : leaf? (c :: x) with
    | none =>
      rw [hleaf] at h
      cases h
    | some found =>
      obtain ⟨t, rest⟩ := found
      rw [hleaf] at h
      obtain ⟨ls, -, rfl⟩ := Option.map_eq_some_iff.mp h
      exact ⟨t, rest, rfl, rfl⟩
    · exact nofun

/-- Behind the quote of a lifetime the lexer reads the name, or a literal
that begins like one. -/
theorem namesLifetime_lead {x after : List Char} {i : Ident} {n : Nat} {ls : List Lexeme}
    (hi : anyIdent? x = some (i, after)) (hquote : after.head? ≠ some '\'')
    (hhash : after.head? = some '#' → i.raw = true) (h : lexemesWithin? n x = some ls) :
    NamesLifetime (lead ls) := by
  obtain ⟨hlexed, hx, -⟩ := isLexed_of_anyIdent? hi
  obtain ⟨c, y, htext, hstart, -⟩ := exists_start_of_isLexed hlexed
  obtain ⟨hblank, hspecial⟩ := start_spec hstart
  have hne : ∀ d ∈ specials, c ≠ d := fun d hd hcd => hspecial (hcd ▸ hd)
  rw [htext, List.cons_append] at hx
  subst hx
  obtain ⟨t, rest, hleaf, hlead⟩ := exists_lead hblank (comment?_of_ne (hne _ (by decide)) _)
    (fun hmem => hspecial (special_of_delimiter c hmem)) h
  rw [hlead]
  rcases leaf?_cases hleaf with ⟨s, rfl, hs, hread⟩ | hpunct | ⟨i', rfl, -⟩
  -- A literal begins like the name, as `b` does in a byte string.
  · have hwhole := hread [] nofun
    rw [List.append_nil] at hwhole
    rw [hs] at hi
    obtain ⟨z, hz⟩ := exists_quote_of_afterLiteral? hwhole hi hquote hhash
    exact ⟨i, z, hz⟩
  · rcases punct?_cases hpunct with ⟨heq, -⟩ | ⟨d, heq, -, hmark, -⟩
    · exact absurd (List.cons.inj heq).1 (hne _ (by decide))
    · obtain ⟨rfl, -⟩ := List.cons.inj heq
      have hnone := (startsWithMark_spec hmark).1
      rw [not_isMark hspecial] at hnone
      cases hnone
  · trivial

/-- Behind a joint slash the lexer reads a mark that makes no comment of it,
or a character in quotes. -/
theorem followsSlash_lead {x : List Char} {n : Nat} {ls : List Lexeme}
    (hslash : startsWithMark ('/' :: x) = true) (hmark : startsWithMark x = true)
    (h : lexemesWithin? n x = some ls) : FollowsSlash (lead ls) := by
  cases x with
  | nil => cases hmark
  | cons c x =>
    have hc := (startsWithMark_spec hslash).2 rfl c rfl
    obtain ⟨hblank, -, hdelimiter, -⟩ := mark_spec (startsWithMark_spec hmark).1
    obtain ⟨t, rest, hleaf, hlead⟩ := exists_lead hblank (comment?_of_ne hc.1 x) hdelimiter h
    rw [hlead]
    rcases leaf?_cases hleaf with ⟨s, rfl, -⟩ | hpunct | ⟨i, rfl, -⟩
    · trivial
    · rcases punct?_cases hpunct with ⟨-, rfl, -⟩ | ⟨d, heq, -, -, rfl⟩
      · exact ⟨by decide, by decide⟩
      · obtain ⟨rfl, -⟩ := List.cons.inj heq
        exact hc
    · trivial

/-! ### Quoted texts -/

/-- What can be read back from between quotes is a literal with them. -/
theorem isLiteral_of_readCooked {body v : List Char}
    (h : ∀ k, readCooked .text .plain (body ++ '"' :: k) = some (v, k)) :
    IsLiteral (String.ofList ('"' :: body ++ ['"'])) := by
  refine Or.inr fun k hk => ?_
  obtain ⟨w, hw, -, hsuffix⟩ := exists_afterSuffix []
  obtain ⟨rfl, -⟩ := List.append_eq_nil_iff.mp hw.symm
  have htext : (String.ofList ('"' :: body ++ ['"'])).toList ++ k = '"' :: (body ++ '"' :: k) := by
    simp
  have hstring : afterString? ((String.ofList ('"' :: body ++ ['"'])).toList ++ k) = some k := by
    rw [htext]
    show (readCooked .text .plain (body ++ '"' :: k)).map _ = some k
    rw [h]
    exact congrArg some (hsuffix k hk)
  rw [afterLiteral?, hstring]
  rfl

/-- A text is written as a literal. -/
theorem isLiteral_encode (s : String) : IsLiteral (encode s) :=
  isLiteral_of_readCooked (readCooked_encodeBody s.toList)

/-- So is the text of a comment. -/
theorem isLiteral_encodeComment (s : String) : IsLiteral (encodeComment s) :=
  isLiteral_of_readCooked (readCooked_encodeCommentBody s.toList)

/-- The attribute that a comment stands for is clean. -/
theorem areCleanLexemes_doc (inner : Bool) (text : List Char) {ls : List Lexeme}
    (h : AreCleanLexemes ls) : AreCleanLexemes (docLexemes inner text ++ ls) := by
  have hread : anyIdent? "doc".toList = some (.plain "doc", []) := by rfl
  have hdoc : (Ident.plain "doc").IsLexed := (isLexed_of_anyIdent? hread).1
  have hmarks : isMark '#' = true ∧ isMark '!' = true ∧ isMark '=' = true := by decide
  have hliteral := isLiteral_encodeComment (String.ofList text)
  cases inner <;>
    simp [docLexemes, AreCleanLexemes, IsClean, Holds, hdoc, hmarks, hliteral, h]

/-! ### Lexemes -/

/-- A token that the lexer reads is clean, and followed by what it has to be
followed by. -/
theorem leaf?_areClean {cs rest : List Char} {t : Token} {n : Nat} {ls : List Lexeme}
    (h : leaf? cs = some (t, rest)) (hls : lexemesWithin? n rest = some ls) :
    t.IsClean ∧ t.Holds (lead ls) := by
  rcases leaf?_cases h with ⟨s, rfl, -, hs⟩ | hpunct | ⟨i, rfl, hi⟩
  · exact ⟨Or.inr hs, nofun, nofun⟩
  · rcases punct?_cases hpunct with ⟨rfl, rfl, i, after, hi, hquote, hhash⟩ | ⟨c, rfl, hne, hc, rfl⟩
    · refine ⟨⟨by decide, fun _ => rfl⟩, fun _ _ => ?_, nofun⟩
      exact namesLifetime_lead hi hquote hhash hls
    · refine ⟨⟨(startsWithMark_spec hc).1, fun hquote => absurd hquote hne⟩, ?_, ?_⟩
      · intro s hs
        exact absurd (Token.punct.inj hs).1 hne
      · intro hs
        obtain ⟨rfl, hjoint⟩ := Token.punct.inj hs
        have hmark : startsWithMark rest = true := by
          cases hstart : startsWithMark rest with
          | true => rfl
          | false => simp [hstart] at hjoint
        exact followsSlash_lead hc hmark hls
  · exact ⟨(isLexed_of_anyIdent? hi).1, nofun, nofun⟩

/-- A step of the lexer puts clean lexemes in front of clean ones. -/
theorem areCleanLexemes_of_next {cs rest : List Char} {found ls : List Lexeme} {n : Nat}
    (h : nextLexemes? cs = some (found, rest)) (hrest : lexemesWithin? n rest = some ls)
    (hls : AreCleanLexemes ls) : AreCleanLexemes (found ++ ls) := by
  unfold nextLexemes? at h
  split at h
  next => cases h
  next c x =>
    split at h
    next =>
      obtain ⟨rfl, -⟩ := Prod.mk.inj (Option.some.inj h)
      exact hls
    next =>
      split at h
      next =>
        obtain ⟨rfl, -⟩ := Prod.mk.inj (Option.some.inj h)
        exact hls
      next inner text after _ =>
        -- A comment that documents something is read as the attribute it stands for.
        obtain ⟨rfl, -⟩ := Prod.mk.inj (Option.some.inj h)
        exact areCleanLexemes_doc inner text hls
      next =>
        split at h
        next =>
          obtain ⟨rfl, -⟩ := Prod.mk.inj (Option.some.inj h)
          exact ⟨Or.inl (by simp), ⟨nofun, nofun⟩, hls⟩
        next =>
          split at h
          next =>
            obtain ⟨rfl, -⟩ := Prod.mk.inj (Option.some.inj h)
            exact hls
          next =>
            obtain ⟨rfl, -⟩ := Prod.mk.inj (Option.some.inj h)
            exact hls
          next =>
            -- What is neither a blank, a comment nor a delimiter is a single token.
            obtain ⟨⟨t, after⟩, hleaf, ht⟩ := Option.map_eq_some_iff.mp h
            obtain ⟨rfl, rfl⟩ := Prod.mk.inj ht
            obtain ⟨hclean, hholds⟩ := leaf?_areClean hleaf hrest
            exact ⟨hclean, hholds, hls⟩

/-- The lexemes of a text are clean. -/
theorem lexemesWithin?_areClean {n : Nat} {cs : List Char} {ls : List Lexeme}
    (h : lexemesWithin? n cs = some ls) : AreCleanLexemes ls := by
  induction n generalizing cs ls with
  | zero =>
    cases cs with
    | nil =>
      obtain rfl := Option.some.inj h
      trivial
    | cons c cs => cases h
  | succ n ih =>
    cases cs with
    | nil =>
      obtain rfl := Option.some.inj h
      trivial
    | cons c cs =>
      unfold lexemesWithin? at h
      split at h
      next found rest hnext =>
        obtain ⟨ls, hrest, rfl⟩ := Option.map_eq_some_iff.mp h
        exact areCleanLexemes_of_next hnext hrest (ih hrest)
      next => cases h

/-! ### Matching delimiters -/

/-- Tokens that are clean together with any clean tokens that begin like the
lexemes. -/
def AreReady (ts : List Token) (ls : List Lexeme) : Prop :=
  ∀ us, AreClean us → lead ls <+: us → AreClean (ts ++ us)

/-- Where no token follows, the tokens are clean by themselves. -/
theorem AreReady.areClean {ts : List Token} {ls : List Lexeme} (h : AreReady ts ls)
    (hls : lead ls = []) : AreClean ts := by
  have hprefix : lead ls <+: [] := ⟨[], by rw [hls, List.append_nil]⟩
  have hclean := h [] trivial hprefix
  rw [List.append_nil] at hclean
  exact hclean

/-- Clean tokens are ready for any lexemes. -/
theorem areReady_of_areClean {ts : List Token} (h : AreClean ts) (ls : List Lexeme) :
    AreReady ts ls :=
  fun _ hus _ => areClean_append h hus

theorem areReady_nil (ls : List Lexeme) : AreReady [] ls :=
  fun _ hus _ => hus

/-- A token goes from the lexemes to the tokens. -/
theorem AreReady.token {ts : List Token} {t : Token} {ls : List Lexeme}
    (h : AreReady ts (.token t :: ls)) (ht : t.IsClean) (hholds : t.Holds (lead ls)) :
    AreReady (ts ++ [t]) ls := by
  intro us hus hlead
  obtain ⟨vs, rfl⟩ := hlead
  rw [List.append_assoc]
  exact h _ ⟨ht, hholds.append, hus⟩ ⟨_, rfl⟩

/-- The token trees of clean lexemes are clean. -/
theorem nestFrom?_areClean {outer : List (Delimiter × List Token)} {done ts : List Token}
    {ls : List Lexeme} (h : nestFrom? outer done ls = some ts)
    (houter : ∀ f ∈ outer, AreClean f.2.reverse) (hdone : AreReady done.reverse ls)
    (hls : AreCleanLexemes ls) : AreClean ts := by
  fun_induction nestFrom? outer done ls
  case case1 done =>
    obtain rfl := Option.some.inj h
    exact hdone.areClean rfl
  case case2 => cases h
  case case3 outer done t rest ih =>
    obtain ⟨ht, hholds, hrest⟩ := hls
    refine ih h houter ?_ hrest
    rw [List.reverse_cons]
    exact hdone.token ht hholds
  case case4 outer done d rest ih =>
    -- A group opens: what is done so far waits for its end, and nothing is done inside.
    refine ih h ?_ (areReady_nil rest) hls
    intro f hf
    rcases List.mem_cons.mp hf with rfl | hf
    · exact hdone.areClean rfl
    · exact houter f hf
  case case5 before outer done d rest ih =>
    -- A group closes: its tokens were read to the end, so they are clean by themselves.
    have hgroup : AreClean [Token.group d done.reverse] :=
      ⟨hdone.areClean rfl, ⟨nofun, nofun⟩, trivial⟩
    have hbefore : AreClean before.reverse := houter _ List.mem_cons_self
    refine ih h (fun f hf => houter f (List.mem_cons_of_mem _ hf)) ?_ hls
    rw [List.reverse_cons]
    exact areReady_of_areClean (areClean_append hbefore hgroup) rest
  case case6 => cases h
  case case7 => cases h

/-- The tokens of a text are clean. -/
theorem lex?_areClean {source : String} {ts : List Token} (h : lex? source = some ts) :
    AreClean ts := by
  obtain ⟨ls, hlexemes, hnest⟩ := Option.bind_eq_some_iff.mp h
  exact nestFrom?_areClean hnest nofun (areReady_nil ls) (lexemesWithin?_areClean hlexemes)

end EnumCompanion.Token
