import EnumCompanion.Proofs.Token.Lexed
import EnumCompanion.Proofs.Token.Respaced

/-!
# `EnumCompanion.Proofs.Token.Whole`: texts read piece by piece

A text that is put together from pieces is read piece by piece, if no token
begins in one piece and ends in the next. Whether one does depends on what
stands behind the piece, so that is part of the statement: `LexesTo cs k ls`
says that in front of `k` the piece `cs` is read as `ls`.

It says so of texts that the lexer gets through. A name of a summary need
not be one for the lexer, but if the text has tokens at all, then it is.

* `LexesTo.append`: two pieces, one behind the other.
* `lexesTo_name`: what looks like a name is read as one.
* `ReadsAs`: pieces that are read as given tokens, and `IsWhole`: pieces
  that are read as any. Of these are phrases of plain characters
  (`isWhole_phrase`), groups (`IsWhole.group`) and the lines of clean tokens
  (`isSource_spelled`).
-/

set_option autoImplicit false

namespace EnumCompanion.Token

open EnumCompanion.Text

/-! ### Pieces of a text -/

/-- If the lexer gets through `cs` with `k` behind it, then it reads `cs` as
the given lexemes, and then gets through `k`. -/
def LexesTo (cs k : List Char) (found : List Lexeme) : Prop :=
  ∀ n ls, lexemesWithin? n (cs ++ k) = some ls →
    ∃ m rest, lexemesWithin? m k = some rest ∧ ls = found ++ rest

/-- The lexemes of no characters. -/
theorem lexesTo_nil (k : List Char) : LexesTo [] k [] :=
  fun n ls h => ⟨n, ls, h, rfl⟩

/-- Two pieces are read one after the other. -/
theorem LexesTo.append {cs ds k : List Char} {found more : List Lexeme}
    (h : LexesTo cs (ds ++ k) found) (hmore : LexesTo ds k more) :
    LexesTo (cs ++ ds) k (found ++ more) := by
  intro n ls hls
  rw [List.append_assoc] at hls
  obtain ⟨m, rest, hrest, rfl⟩ := h n ls hls
  obtain ⟨m', rest', hrest', rfl⟩ := hmore m rest hrest
  exact ⟨m', rest', hrest', (List.append_assoc _ _ _).symm⟩

/-- The lexer gets through a text only if it finds a lexeme at its front. -/
theorem exists_next {n : Nat} {c : Char} {x : List Char} {ls : List Lexeme}
    (h : lexemesWithin? n (c :: x) = some ls) :
    ∃ m found rest more, nextLexemes? (c :: x) = some (found, rest) ∧
      lexemesWithin? m rest = some more ∧ ls = found ++ more := by
  cases n with
  | zero => cases h
  | succ n =>
    unfold lexemesWithin? at h
    split at h
    next found rest hnext =>
      obtain ⟨more, hmore, rfl⟩ := Option.map_eq_some_iff.mp h
      exact ⟨n, found, rest, more, hnext, hmore, rfl⟩
    next => cases h

/-- A piece that the lexer takes in one step. -/
theorem lexesTo_of_next {cs k : List Char} {found : List Lexeme} (hcs : cs ≠ [])
    (next : nextLexemes? (cs ++ k) = some (found, k)) : LexesTo cs k found := by
  obtain ⟨c, x, rfl⟩ := List.exists_cons_of_ne_nil hcs
  intro n ls hls
  rw [List.cons_append] at next hls
  obtain ⟨m, found', rest, more, hnext, hmore, rfl⟩ := exists_next hls
  rw [next] at hnext
  obtain ⟨rfl, rfl⟩ := Prod.mk.inj (Option.some.inj hnext)
  exact ⟨m, more, hmore, rfl⟩

/-- What a run reads of a text, the lexer reads first. -/
theorem exists_rest_of_run {k cs : List Char} {found ls : List Lexeme} {n : Nat}
    (h : Run k cs found) (hls : lexemesWithin? n cs = some ls) :
    ∃ m rest, lexemesWithin? m k = some rest ∧ ls = found ++ rest := by
  induction h generalizing n ls with
  | done => exact ⟨n, ls, hls, rfl⟩
  | @step cs rest found more next shorter _ ih =>
    cases cs with
    | nil => cases next
    | cons c x =>
      obtain ⟨m, found', rest', more', hnext, hmore, rfl⟩ := exists_next hls
      rw [next] at hnext
      obtain ⟨rfl, rfl⟩ := Prod.mk.inj (Option.some.inj hnext)
      obtain ⟨m', last, hlast, rfl⟩ := ih hmore
      exact ⟨m', last, hlast, (List.append_assoc _ _ _).symm⟩

/-! ### Single characters -/

/-- A blank is passed over. -/
theorem lexesTo_blank {c : Char} (h : isLexicalBlank c = true) (k : List Char) :
    LexesTo [c] k [] :=
  lexesTo_of_next (List.cons_ne_nil c []) (by simp [nextLexemes?, h])

/-- So are many. -/
theorem lexesTo_blanks {cs : List Char} (h : ∀ c ∈ cs, isLexicalBlank c = true) (k : List Char) :
    LexesTo cs k [] := by
  induction cs with
  | nil => exact lexesTo_nil k
  | cons c cs ih =>
    obtain ⟨hc, hcs⟩ := List.forall_mem_cons.mp h
    exact (lexesTo_blank hc (cs ++ k)).append (ih hcs)

/-- A mark is read, if it begins neither a comment nor a literal. -/
theorem lexesTo_mark {c : Char} (h : isMark c = true) (hquote : c ≠ '\'') (hslash : c ≠ '/')
    (k : List Char) :
    LexesTo [c] k [.token (.punct c (if startsWithMark k then .joint else .alone))] :=
  lexesTo_of_next (List.cons_ne_nil c [])
    (nextLexemes?_punct h hquote fun heq => absurd heq hslash)

theorem lexesTo_opening (d : Delimiter) {k : List Char} (h : ∀ y, k ≠ '/' :: '*' :: y) :
    LexesTo d.opening.toList k [.opening d] :=
  lexesTo_of_next (by cases d <;> decide) (nextLexemes?_opening d h)

theorem lexesTo_closing (d : Delimiter) (k : List Char) :
    LexesTo d.closing.toList k [.closing d] :=
  lexesTo_of_next (by cases d <;> decide) (nextLexemes?_closing d k)

/-! ### Names -/

/-- A word is read as a plainly spelt identifier. -/
theorem lexesTo_word {w k : List Char} (hw : IsWord w) (hk : EndsName k) :
    LexesTo w k [.token (.ident (.plain (String.ofList w)))] := by
  have hlexed : (Ident.plain (String.ofList w)).IsLexed :=
    ⟨by simpa [Ident.plain] using hw, nofun⟩
  have hread := nextLexemes?_ident hlexed hk
  have htext : (Ident.plain (String.ofList w)).text.toList = w := by simp [Ident.plain, Ident.text]
  rw [htext] at hread
  exact lexesTo_of_next hw.ne_nil hread

/-- A text that looks like a name: it has neither blanks nor marks in it,
and no digit in front. -/
structure IsNameLike (w : List Char) : Prop where
  nonempty : w ≠ []
  digit : ∀ c ∈ w.head?, Number.isDigit c = false
  visible : ∀ c ∈ w, isLexicalBlank c = false ∧ c ∉ specials

/-- No lexeme begins at a character that is neither a blank nor a mark, nor
the first of a word or of a number. -/
theorem nextLexemes?_eq_none {c : Char} (hblank : isLexicalBlank c = false)
    (hspecial : c ∉ specials) (hstart : isIdentifierStart c = false)
    (hdigit : Number.isDigit c = false) (x : List Char) : nextLexemes? (c :: x) = none := by
  have hne : ∀ d ∈ specials, c ≠ d := fun d hd hcd => hspecial (hcd ▸ hd)
  have hstarts : c ∉ literalStarts := by
    intro hmem
    have all : literalStarts.all (fun d => isIdentifierStart d || specials.contains d) = true := by
      rfl
    have hc := List.all_eq_true.mp all c hmem
    rw [hstart, Bool.false_or, List.contains_iff_mem] at hc
    exact hspecial hc
  -- A comment, a mark, a literal and a name are all that a lexeme can be: each is ruled out.
  have hpunct : punct? (c :: x) = none := by
    have hmark : startsWithMark (c :: x) = isMark c :=
      startsWithMark_cons fun heq => absurd heq (hne _ (by decide))
    unfold punct?
    split
    next heq => exact absurd (List.cons.inj heq).1 (hne _ (by decide))
    next heq =>
      obtain ⟨rfl, rfl⟩ := List.cons.inj heq
      rw [hmark, not_isMark hspecial]
      rfl
    next heq => cases heq
  have hident : ident? (c :: x) = none := by
    rw [ident?, anyIdent?_eq_none hstart]
    split <;> rfl
  rw [nextLexemes?_eq_leaf hblank (comment?_of_ne (hne _ (by decide)) x)
      fun hmem => hspecial (special_of_delimiter c hmem),
    leaf?, afterLiteral?_eq_none hstarts hdigit, hpunct, hident]
  rfl

/-- What is neither a blank nor a mark ends a name if it does not go on it. -/
theorem endsName_cons {c : Char} {x : List Char} (hspecial : c ∉ ['"', '#', '\''])
    (hcontinue : isIdentifierContinue c = false) : EndsName (c :: x) := by
  intro d hd
  obtain rfl := Option.some.inj hd
  exact ⟨hcontinue, hspecial⟩

/-- The quotes and the hash are special. -/
theorem special_of_quote : ∀ c ∈ ['"', '#', '\''], c ∈ specials :=
  forall_mem_of_all rfl

/-- Behind the longest word at the front stands something that does not go on
it. -/
theorem exists_longest_word {c : Char} (hstart : isIdentifierStart c = true) (x : List Char) :
    ∃ w z, c :: x = w ++ z ∧ IsWord w ∧ EndsWord z := by
  have hname : Number.afterName? (c :: x) = some (x.dropWhile isIdentifierContinue) := by
    rw [Number.afterName?, if_pos hstart]
  obtain ⟨w, hword, htext, hend⟩ := exists_word_of_afterName? hname
  exact ⟨w, _, htext, hword, hend⟩

/-- What looks like a name is read as one. It may hold a character that no
name has for the lexer, but then the lexer does not get through. -/
theorem lexesTo_name {w k : List Char} (hw : IsNameLike w) (hk : EndsName k) :
    LexesTo w k [.token (.ident (.plain (String.ofList w)))] := by
  obtain ⟨c, x, rfl⟩ := List.exists_cons_of_ne_nil hw.nonempty
  obtain ⟨hc, hx⟩ := List.forall_mem_cons.mp hw.visible
  cases hstart : isIdentifierStart c with
  | false =>
    intro n ls hls
    obtain ⟨m, found, rest, more, hnext, -⟩ := exists_next hls
    rw [nextLexemes?_eq_none hc.1 hc.2 hstart (hw.digit c rfl)] at hnext
    cases hnext
  | true =>
    obtain ⟨v, z, htext, hword, hend⟩ := exists_longest_word hstart x
    cases z with
    | nil =>
      rw [htext, List.append_nil]
      exact lexesTo_word hword hk
    | cons d z =>
      -- The lexer takes the word, and gets stuck behind it.
      obtain ⟨hblank, hspecial⟩ :=
        hw.visible d (htext ▸ List.mem_append_right _ List.mem_cons_self)
      have hcontinue := hend d rfl
      have hdstart : isIdentifierStart d = false := by
        rw [← Bool.not_eq_true]
        intro h
        rw [continue_of_start h] at hcontinue
        cases hcontinue
      have hdigit : Number.isDigit d = false := by
        rw [← Bool.not_eq_true]
        intro h
        rw [continue_of_isDigitOrGap (by simp [Number.isDigitOrGap, h])] at hcontinue
        cases hcontinue
      have hname : EndsName (d :: (z ++ k)) :=
        endsName_cons (fun hmem => hspecial (special_of_quote d hmem)) hcontinue
      intro n ls hls
      rw [htext, List.append_assoc, List.cons_append] at hls
      obtain ⟨m, rest, hstuck, -⟩ := lexesTo_word hword hname n ls hls
      obtain ⟨m', found, rest', more, hnext, -⟩ := exists_next hstuck
      rw [nextLexemes?_eq_none hblank hspecial hdstart hdigit] at hnext
      cases hnext

/-! ### Tokens -/

theorem lexemesOf_append (ts us : List Token) :
    lexemesOf (ts ++ us) = lexemesOf ts ++ lexemesOf us := by
  induction ts with
  | nil => rfl
  | cons t ts ih => rw [List.cons_append, lexemesOf, lexemesOf, ih, List.append_assoc]

/-- A piece is read as tokens: what it opens it closes, and nothing else. -/
def ReadsAs (cs k : List Char) (ts : List Token) : Prop :=
  LexesTo cs k (lexemesOf ts)

theorem ReadsAs.append {cs ds k : List Char} {ts us : List Token} (h : ReadsAs cs (ds ++ k) ts)
    (hmore : ReadsAs ds k us) : ReadsAs (cs ++ ds) k (ts ++ us) := by
  rw [ReadsAs, lexemesOf_append]
  exact LexesTo.append h hmore

/-- A name, a mark or a literal is one token. -/
theorem LexesTo.readsAs {cs k : List Char} {t : Token} (h : LexesTo cs k [.token t])
    (ht : t.lexemesOne = [.token t]) : ReadsAs cs k [t] := by
  simpa [ReadsAs, lexemesOf, ht] using h

theorem readsAs_name {s : String} (hs : IsNameLike s.toList) {k : List Char} (hk : EndsName k) :
    ReadsAs s.toList k [.ident (.plain s)] := by
  have hlexes := lexesTo_name hs hk
  rw [String.ofList_toList] at hlexes
  exact hlexes.readsAs (by simp [lexemesOne])

theorem readsAs_mark {c : Char} (h : isMark c = true) (hquote : c ≠ '\'') (hslash : c ≠ '/')
    {k : List Char} (hk : startsWithMark k = false) : ReadsAs [c] k [.punct c .alone] := by
  have hlexes := lexesTo_mark h hquote hslash k
  rw [hk] at hlexes
  exact hlexes.readsAs (by simp [lexemesOne])

theorem readsAs_blanks {cs : List Char} (h : ∀ c ∈ cs, isLexicalBlank c = true) (k : List Char) :
    ReadsAs cs k [] :=
  lexesTo_blanks h k

theorem readsAs_literal {s : String} (h : IsLiteral s) {k : List Char} (hk : Stops k) :
    ReadsAs s.toList k [.literal s] := by
  refine LexesTo.readsAs ?_ (by simp [lexemesOne])
  refine lexesTo_of_next ?_ (nextLexemes?_literal h hk)
  obtain ⟨c, x, hs, -⟩ := h.exists_start
  rw [hs]
  exact List.cons_ne_nil c x

/-- A lifetime is read at once with its quote. -/
theorem readsAs_lifetime {s : String} (hs : IsWord s.toList) {k : List Char} (hk : EndsName k) :
    ReadsAs ('\'' :: s.toList) k [.punct '\'' .joint, .ident (.plain s)] := by
  have hlexed : (Ident.plain s).IsLexed := ⟨hs, nofun⟩
  have hhash : k.head? ≠ some '#' := fun hhead => (hk '#' hhead).2 (by decide)
  have hname := anyIdent?_text hlexed hk.endsWord hhash
  have hquote : ∀ c ∈ k.head?, c ≠ '\'' ∧ c ≠ '#' := by
    intro c hc
    have hmarks := (hk c hc).2
    simp only [List.mem_cons, List.not_mem_nil, or_false, not_or] at hmarks
    exact ⟨hmarks.2.2, hmarks.2.1⟩
  have hfirst : LexesTo ['\''] (s.toList ++ k) [.token (.punct '\'' .joint)] :=
    lexesTo_of_next (List.cons_ne_nil _ []) (nextLexemes?_quote hname hquote)
  have hword := lexesTo_word hs hk
  rw [String.ofList_toList] at hword
  exact (hfirst.readsAs (by simp [lexemesOne])).append (hword.readsAs (by simp [lexemesOne]))

/-- A group is one token, and its tokens are those of what is in it. No comment
may begin behind its delimiter. -/
theorem ReadsAs.group (d : Delimiter) {cs k : List Char} {ts : List Token}
    (h : ReadsAs cs (d.closing.toList ++ k) ts)
    (hslash : (cs ++ d.closing.toList).head? ≠ some '/') :
    ReadsAs (d.opening.toList ++ (cs ++ d.closing.toList)) k [.group d ts] := by
  have hopening : LexesTo d.opening.toList (cs ++ d.closing.toList ++ k) [.opening d] := by
    refine lexesTo_opening d fun y heq => ?_
    cases cs with
    | nil => cases d <;> cases (List.cons.inj heq).1
    | cons c x => exact hslash (congrArg some (List.cons.inj heq).1)
  have hshape : lexemesOf [.group d ts] = [.opening d] ++ (lexemesOf ts ++ [.closing d]) := by
    simp [lexemesOf, lexemesOne]
  rw [ReadsAs, hshape]
  exact hopening.append (LexesTo.append h (lexesTo_closing d k))

/-! ### Pieces that open and close nothing -/

/-- A piece that is read as tokens, whichever they are. -/
def IsWhole (cs k : List Char) : Prop :=
  ∃ ts, ReadsAs cs k ts

theorem isWhole_nil (k : List Char) : IsWhole [] k :=
  ⟨[], lexesTo_nil k⟩

theorem IsWhole.append {cs ds k : List Char} (h : IsWhole cs (ds ++ k)) (hmore : IsWhole ds k) :
    IsWhole (cs ++ ds) k := by
  obtain ⟨ts, hts⟩ := h
  obtain ⟨us, hus⟩ := hmore
  exact ⟨ts ++ us, hts.append hus⟩

theorem isWhole_name {s : String} (hs : IsNameLike s.toList) {k : List Char} (hk : EndsName k) :
    IsWhole s.toList k :=
  ⟨_, readsAs_name hs hk⟩

theorem isWhole_blanks {cs : List Char} (h : ∀ c ∈ cs, isLexicalBlank c = true) (k : List Char) :
    IsWhole cs k :=
  ⟨[], readsAs_blanks h k⟩

theorem isWhole_literal {s : String} (h : IsLiteral s) {k : List Char} (hk : Stops k) :
    IsWhole s.toList k :=
  ⟨_, readsAs_literal h hk⟩

theorem isWhole_lifetime {s : String} (hs : IsWord s.toList) {k : List Char} (hk : EndsName k) :
    IsWhole ('\'' :: s.toList) k :=
  ⟨_, readsAs_lifetime hs hk⟩

theorem IsWhole.group (d : Delimiter) {cs k : List Char}
    (h : IsWhole cs (d.closing.toList ++ k))
    (hslash : (cs ++ d.closing.toList).head? ≠ some '/') :
    IsWhole (d.opening.toList ++ (cs ++ d.closing.toList)) k := by
  obtain ⟨ts, hts⟩ := h
  exact ⟨_, hts.group d hslash⟩

/-! ### Phrases -/

/-- The characters of fixed phrases: letters, blanks, and the marks that
begin neither comments nor literals. -/
def isPlain (c : Char) : Bool :=
  "abcdefghijklmnopqrstuvwxyzABCDEFGHIJKLMNOPQRSTUVWXYZ_ \n!&=|;:,<.>-".toList.contains c

/-- A plain character is a blank, a mark, or a letter. -/
theorem isPlain_spec {c : Char} (h : isPlain c = true) :
    c ∉ ['"', '#', '\''] ∧ c ≠ '/' ∧
      (isLexicalBlank c = true ∨ isMark c = true ∨ isIdentifierStart c = true) := by
  have all : "abcdefghijklmnopqrstuvwxyzABCDEFGHIJKLMNOPQRSTUVWXYZ_ \n!&=|;:,<.>-".toList.all
      (fun c => !(['"', '#', '\''].contains c) && c != '/' &&
        (isLexicalBlank c || isMark c || isIdentifierStart c)) = true := by rfl
  have hc := List.all_eq_true.mp all c (List.contains_iff_mem.mp h)
  simpa only [Bool.and_eq_true, Bool.or_eq_true, bne_iff_ne, Bool.not_eq_true', and_assoc, or_assoc,
    ← Bool.not_eq_true, List.contains_iff_mem] using hc

/-- A plain blank or mark is whole. -/
theorem isWhole_plainOne {c : Char} (hc : isPlain c = true)
    (hkind : isLexicalBlank c = true ∨ isMark c = true) (k : List Char) : IsWhole [c] k := by
  obtain ⟨hquote, hslash, -⟩ := isPlain_spec hc
  rcases hkind with hblank | hmark
  · exact isWhole_blanks (by simpa using hblank) k
  · have hne : c ≠ '\'' := by
      rintro rfl
      exact hquote (by decide)
    exact ⟨_, (lexesTo_mark hmark hne hslash k).readsAs (by simp [lexemesOne])⟩

/-- A longest word of plain characters ends, if a word at the end of them all
does: at the plain character behind it, or as the last of them. -/
theorem endsName_of_longest {w z k : List Char} (hcs : ∀ c ∈ w ++ z, isPlain c = true)
    (hk : ∀ c ∈ (w ++ z).getLast?, isIdentifierContinue c = true → EndsName k)
    (hword : IsWord w) (hend : EndsWord z) : EndsName (z ++ k) := by
  cases z with
  | nil =>
    rw [List.append_nil] at hk
    have hlast : w.getLast? = some (w.getLast hword.ne_nil) :=
      List.getLast?_eq_some_getLast hword.ne_nil
    exact hk _ hlast (continue_of_isWord hword _ (List.getLast_mem hword.ne_nil))
  | cons d z =>
    have hd := hcs d (List.mem_append_right _ List.mem_cons_self)
    exact endsName_cons (isPlain_spec hd).1 (hend d rfl)

/-- Plain characters are whole, if a word at their end ends there. -/
theorem isWhole_plain {cs k : List Char} (hcs : ∀ c ∈ cs, isPlain c = true)
    (hk : ∀ c ∈ cs.getLast?, isIdentifierContinue c = true → EndsName k) : IsWhole cs k := by
  -- The induction is on the length, as a word is taken at once.
  induction hlength : cs.length using Nat.strongRecOn generalizing cs with
  | ind n ih =>
    subst hlength
    have hbehind : ∀ v z, v ≠ [] → cs = v ++ z → IsWhole z k := by
      rintro v z hv rfl
      have hshorter : z.length < (v ++ z).length := by
        have := List.length_pos_iff.mpr hv
        rw [List.length_append]
        omega
      refine ih z.length hshorter (fun d hd => hcs d (List.mem_append_right v hd)) ?_ rfl
      intro d hd
      refine hk d ?_
      rw [List.getLast?_append, show z.getLast? = some d from hd]
      rfl
    cases cs with
    | nil => exact isWhole_nil k
    | cons c x =>
      have hc := hcs c List.mem_cons_self
      have hone : isLexicalBlank c = true ∨ isMark c = true → IsWhole (c :: x) k := fun hkind =>
        (isWhole_plainOne hc hkind (x ++ k)).append (hbehind [c] x (List.cons_ne_nil c []) rfl)
      rcases (isPlain_spec hc).2.2 with hblank | hmark | hstart
      · exact hone (Or.inl hblank)
      · exact hone (Or.inr hmark)
      · obtain ⟨w, z, htext, hword, hend⟩ := exists_longest_word hstart x
        have hrest := hbehind w z hword.ne_nil htext
        rw [htext] at hcs hk ⊢
        have hfirst : IsWhole w (z ++ k) :=
          ⟨_, (lexesTo_word hword (endsName_of_longest hcs hk hword hend)).readsAs
            (by simp [lexemesOne])⟩
        exact hfirst.append hrest

/-- Whether the characters are plain and end in no word. -/
def isPhrase (cs : List Char) : Bool :=
  cs.all isPlain && !cs.getLast?.any isIdentifierContinue

/-- A phrase is whole, whatever stands behind it. -/
theorem isWhole_phrase {cs : List Char} (h : isPhrase cs = true) (k : List Char) :
    IsWhole cs k := by
  simp only [isPhrase, Bool.and_eq_true, List.all_eq_true, Bool.not_eq_true'] at h
  refine isWhole_plain h.1 fun c hc hcontinue => ?_
  have hlast : cs.getLast?.any isIdentifierContinue = true := by
    rw [show cs.getLast? = some c from hc]
    exact hcontinue
  rw [hlast] at h
  cases h.2

/-- Whole pieces with a phrase between them are whole. -/
theorem isWhole_intercalate (separator : String) (hphrase : isPhrase separator.toList = true)
    (hends : ∀ k, EndsName (separator.toList ++ k)) {k : List Char} (hk : EndsName k) :
    ∀ {pieces : List String}, (∀ p ∈ pieces, ∀ k', EndsName k' → IsWhole p.toList k') →
      IsWhole (separator.intercalate pieces).toList k
  | [], _ => isWhole_nil k
  | [p], h => by simpa using h p (List.mem_singleton_self p) k hk
  | p :: q :: pieces, h => by
    obtain ⟨hp, hrest⟩ := List.forall_mem_cons.mp h
    have htext : (separator.intercalate (p :: q :: pieces)).toList =
        p.toList ++ (separator.toList ++ (separator.intercalate (q :: pieces)).toList) := by
      simp
    rw [htext]
    refine (hp _ ?_).append ((isWhole_phrase hphrase _).append
      (isWhole_intercalate separator hphrase hends hk hrest))
    rw [List.append_assoc]
    exact hends _

/-! ### Lines of tokens -/

/-- A text that is whole in front of a blank and of the end of a group. -/
def IsSource (s : String) : Prop :=
  ∀ k, Closes k → IsWhole s.toList k

/-- The line of clean tokens is whole. -/
theorem isSource_spelled {ts : List Token} (h : AreClean ts) : IsSource (spelled ts) := by
  intro k hk
  refine ⟨respaced ts, fun n ls hls => ?_⟩
  have hrun : Run k (line true false ts k) (lexemesOf (respaced ts) ++ []) :=
    (cut_spelledFrom hk ts h true false .done).run
  rw [List.append_nil] at hrun
  exact exists_rest_of_run hrun hls

end EnumCompanion.Token
