import EnumCompanion.Proofs.Token.Lexeme

/-!
# `EnumCompanion.Proofs.Token.Respaced`: reading the line of a type again

The line that `spelled` writes says where marks touch, and the lexer tells
operators by nothing else. So what is read from the line are the tokens
that were written, except that every mark is joint if the line puts it
directly in front of another mark, and alone otherwise. `respaced` says
this without the line: it looks at the tokens only.

* `Cut`: a text that the lexer takes apart into lexemes and blanks.
* `cut_spelledFrom`: the line of clean tokens is so cut, and its lexemes are
  those of the respaced tokens. The induction is on the tokens, with any text
  behind them that can stand behind a line or in front of the end of a group.
* `lex?_spelled`: a line of clean tokens has the respaced tokens.
* `wordsOf_respaced`: these have the same words.
-/

set_option autoImplicit false

namespace EnumCompanion

/-- What a lexeme is written as. -/
def Lexeme.text : Lexeme → String
  | .token t => t.spelledOne
  | .opening d => d.opening
  | .closing d => d.closing

namespace Token

open EnumCompanion.Text

/-! ### Respaced tokens -/

/-- Whether the token is written with a mark as its first character: it is
a mark, or a character in quotes. -/
def beginsWithMark : Token → Bool
  | .punct _ _ => true
  | .literal s => s.toList.head? == some '\''
  | _ => false

/-- Whether the line of the tokens begins with a mark, behind a token that
sticks or not and is a name or not. -/
def meetsMark (stuck afterIdent : Bool) : List Token → Bool
  | [] => false
  | u :: _ => (stuck || u.closesUp afterIdent) && u.beginsWithMark

/-- Whether the line puts the token directly in front of a mark. -/
def touches (t : Token) (ts : List Token) : Bool :=
  meetsMark t.opensUp t.isIdent ts

mutual

/-- The token as the line shows it, where it touches a mark or not. The quote
of a lifetime is joint in any case. -/
def respacedOne (touched : Bool) : Token → Token
  | .punct c _ => .punct c (if c == '\'' || touched then .joint else .alone)
  | .group d ts => .group d (respaced ts)
  | .ident i => .ident i
  | .literal s => .literal s

/-- The tokens as the line shows them: a mark is joint if another one follows
it there directly. -/
def respaced : List Token → List Token
  | [] => []
  | t :: ts => t.respacedOne (t.touches ts) :: respaced ts

end

mutual

/-- A respaced token has the same words. -/
theorem words_respacedOne (touched : Bool) : ∀ t : Token, (t.respacedOne touched).words = t.words
  | .ident i => by rw [respacedOne]
  | .literal s => by rw [respacedOne]
  | .punct c s => by rw [respacedOne, words, words]
  | .group d ts => by rw [respacedOne, words, words, wordsOf_respaced ts]

/-- Respacing keeps all words: only which marks are joint may change. -/
theorem wordsOf_respaced : ∀ ts : List Token, wordsOf (respaced ts) = wordsOf ts
  | [] => by rw [respaced]
  | t :: ts => by rw [respaced, wordsOf, wordsOf, words_respacedOne _ t, wordsOf_respaced ts]

end

/-! ### Lexemes of tokens -/

mutual

/-- The lexemes of a token. -/
def lexemesOne : Token → List Lexeme
  | .group d ts => .opening d :: (lexemesOf ts ++ [.closing d])
  | .ident i => [.token (.ident i)]
  | .literal s => [.token (.literal s)]
  | .punct c s => [.token (.punct c s)]

/-- The lexemes of tokens, with the delimiters of groups among them. -/
def lexemesOf : List Token → List Lexeme
  | [] => []
  | t :: ts => t.lexemesOne ++ lexemesOf ts

end

mutual

/-- Matching the delimiters of one token puts it behind those that are
done. -/
theorem nestFrom?_lexemesOne (outer : List (Delimiter × List Token)) (done : List Token)
    (rest : List Lexeme) :
    ∀ t : Token, nestFrom? outer done (t.lexemesOne ++ rest) = nestFrom? outer (t :: done) rest
  | .ident i => by simp [lexemesOne, nestFrom?]
  | .literal s => by simp [lexemesOne, nestFrom?]
  | .punct c s => by simp [lexemesOne, nestFrom?]
  | .group d ts => by
    have hinner := nestFrom?_lexemesOf ((d, done) :: outer) [] (.closing d :: rest) ts
    rw [List.append_nil] at hinner
    have hshape : (Token.group d ts).lexemesOne ++ rest =
        .opening d :: (lexemesOf ts ++ .closing d :: rest) := by simp [lexemesOne]
    rw [hshape, nestFrom?, hinner, nestFrom?, if_pos rfl, List.reverse_reverse]

/-- Matching the delimiters of tokens puts them behind those that are
done. -/
theorem nestFrom?_lexemesOf (outer : List (Delimiter × List Token)) (done : List Token)
    (rest : List Lexeme) :
    ∀ ts : List Token,
      nestFrom? outer done (lexemesOf ts ++ rest) = nestFrom? outer (ts.reverse ++ done) rest
  | [] => by simp [lexemesOf]
  | t :: ts => by
    rw [lexemesOf, List.append_assoc, nestFrom?_lexemesOne outer done _ t,
      nestFrom?_lexemesOf outer (t :: done) rest ts]
    simp

end

/-- The delimiters of the lexemes of tokens match, and give the tokens. -/
theorem nest?_lexemesOf (ts : List Token) : nest? (lexemesOf ts) = some ts := by
  have h := nestFrom?_lexemesOf [] [] [] ts
  simpa [nest?, nestFrom?] using h

/-! ### Runs of the lexer -/

/-- A run of the lexer from a text to the end that is left of it, with the
lexemes it reads. -/
inductive Run (left : List Char) : List Char → List Lexeme → Prop
  | done : Run left left []
  | step {cs rest : List Char} {found ls : List Lexeme}
      (next : nextLexemes? cs = some (found, rest)) (shorter : rest.length < cs.length)
      (more : Run left rest ls) : Run left cs (found ++ ls)

/-- A run that leaves nothing reads what the lexer reads. -/
theorem Run.lexemesWithin? {cs : List Char} {ls : List Lexeme} (h : Run [] cs ls) {n : Nat}
    (hn : cs.length ≤ n) : lexemesWithin? n cs = some ls := by
  induction h generalizing n with
  | done => cases n <;> rfl
  | @step cs rest found ls next shorter more ih =>
    cases n with
    | zero => omega
    | succ n =>
      cases cs with
      | nil => cases next
      | cons c cs =>
        have hmore := ih (n := n) (by omega)
        simp only [Token.lexemesWithin?, next, hmore, Option.map_some]

/-! ### Cuts -/

/-- A text that is cut into lexemes, with blanks among them, up to the end that is
left of it: the lexer reads each lexeme where it is written, and ends where its
text ends. No comment starts there. -/
inductive Cut (left : List Char) : List Char → List Lexeme → Prop
  | done : Cut left left []
  | blank {rest : List Char} {ls : List Lexeme} (more : Cut left rest ls) :
    Cut left (' ' :: rest) ls
  | lexeme {l : Lexeme} {rest : List Char} {ls : List Lexeme} (hne : l.text.toList ≠ [])
    (code : comment? (l.text.toList ++ rest) = none)
    (next : nextLexemes? (l.text.toList ++ rest) = some ([l], rest)) (more : Cut left rest ls) :
    Cut left (l.text.toList ++ rest) (l :: ls)

/-- Where a lexeme is read, no comment starts: a comment is read as nothing, or as
an attribute. -/
theorem comment?_eq_none_of_next {cs rest : List Char} {l : Lexeme}
    (h : nextLexemes? cs = some ([l], rest)) : comment? cs = none := by
  unfold nextLexemes? at h
  split at h
  next => cases h
  next =>
    split at h
    next => cases h
    next =>
      split at h
      next => cases h
      next inner text after hcomment =>
        have hlength := congrArg (fun found => found.1.length) (Option.some.inj h)
        simp [docLexemes] at hlength
      next hcomment => exact hcomment

section

variable {left : List Char}

/-- A lexeme is cut off in front of the rest. -/
theorem Cut.front {w rest : List Char} {l : Lexeme} {ls : List Lexeme} (hw : l.text.toList = w)
    (hne : w ≠ []) (next : nextLexemes? (w ++ rest) = some ([l], rest))
    (more : Cut left rest ls) : Cut left (w ++ rest) (l :: ls) := by
  subst hw
  exact .lexeme hne (comment?_eq_none_of_next next) next more

/-- So is a delimiter. -/
theorem Cut.opening {d : Delimiter} {rest : List Char} {ls : List Lexeme}
    (h : ∀ y, rest ≠ '/' :: '*' :: y) (more : Cut left rest ls) :
    Cut left (d.opening.toList ++ rest) (.opening d :: ls) :=
  .front rfl (by cases d <;> decide) (nextLexemes?_opening d h) more

theorem Cut.closing {d : Delimiter} {rest : List Char} {ls : List Lexeme}
    (more : Cut left rest ls) : Cut left (d.closing.toList ++ rest) (.closing d :: ls) :=
  .front rfl (by cases d <;> decide) (nextLexemes?_closing d rest) more

/-- The lexer runs through a text that is cut. -/
theorem Cut.run {cs : List Char} {ls : List Lexeme} (h : Cut left cs ls) : Run left cs ls := by
  induction h with
  | done => exact .done
  | @blank rest ls more ih => exact .step (nextLexemes?_blank rest) (Nat.lt_succ_self _) ih
  | @lexeme l rest ls hne code next more ih =>
    refine .step next ?_ ih
    have hpos := List.length_pos_iff.mpr hne
    rw [List.length_append]
    omega

end

/-! ### The text of a line -/

/-- What may stand behind a line of tokens: a blank or a delimiter. -/
def Closes (k : List Char) : Prop :=
  ∀ c ∈ k.head?, c ∈ [' ', ')', ']']

theorem closes_cons {c : Char} (h : c ∈ [' ', ')', ']']) (k : List Char) : Closes (c :: k) := by
  intro d hd
  obtain rfl := Option.some.inj hd
  exact h

theorem closes_closing {d : Delimiter} (h : d ≠ .brace) (k : List Char) :
    Closes (d.closing.toList ++ k) := by
  cases d with
  | parenthesis => exact closes_cons (by decide) k
  | bracket => exact closes_cons (by decide) k
  | brace => exact absurd rfl h

/-- What is enclosed, but not in braces, stands directly between its delimiters. -/
theorem spelledOne_group {d : Delimiter} (h : d ≠ .brace) (ts : List Token) :
    (Token.group d ts).spelledOne = d.opening ++ spelledFrom true false ts ++ d.closing := by
  cases d with
  | parenthesis => rw [spelledOne, Delimiter.opening, Delimiter.closing]
  | bracket => rw [spelledOne, Delimiter.opening, Delimiter.closing]
  | brace => exact absurd rfl h

/-- The text of tokens behind one that sticks or not and is a name or not,
with `k` behind them. -/
def line (stuck afterIdent : Bool) (ts : List Token) (k : List Char) : List Char :=
  (spelledFrom stuck afterIdent ts).toList ++ k

/-- A line begins with its first token, behind a blank or not. -/
theorem line_cons (stuck afterIdent : Bool) (t : Token) (ts : List Token) (k : List Char) :
    line stuck afterIdent (t :: ts) k =
      (if stuck || t.closesUp afterIdent then [] else [' ']) ++
        (t.spelledOne.toList ++ line t.opensUp t.isIdent ts k) := by
  simp only [line, spelledFrom, String.toList_append, List.append_assoc]
  split <;> rfl

/-- Of all that a literal other than a number begins with, only the quote of a
character is a mark. -/
theorem front_of_literalStart {c : Char} (hc : c ∈ '(' :: literalStarts) :
    isMark c = (c == '\'') ∧ c ∉ ['/', '*'] ∧ c ≠ '\ufeff' := by
  have all : ('(' :: literalStarts).all (fun c => isMark c == (c == '\'') &&
      !(['/', '*'].contains c) && c != '\ufeff') = true := by rfl
  have hspec := List.all_eq_true.mp all c hc
  simp only [Bool.and_eq_true, beq_iff_eq, Bool.not_eq_true', ← Bool.not_eq_true,
    List.contains_iff_mem, bne_iff_ne] at hspec
  exact ⟨hspec.1.1, hspec.1.2, hspec.2⟩

/-- No group begins with a mark. -/
theorem exists_front_group (d : Delimiter) (ts : List Token) :
    ∃ c x, (Token.group d ts).spelledOne.toList = c :: x ∧ isMark c = false ∧
      c ∉ ['/', '*'] ∧ c ≠ '\ufeff' := by
  cases d with
  | parenthesis => exact ⟨'(', _, by simp [spelledOne]; rfl, by decide, by decide, by decide⟩
  | bracket => exact ⟨'[', _, by simp [spelledOne]; rfl, by decide, by decide, by decide⟩
  | brace => exact ⟨'\x7b', _, by simp [spelledOne]; rfl, by decide, by decide, by decide⟩

/-- The first character of a clean token: a mark if the token begins with
one, and a slash or a star only if it is that mark. No token begins with a
byte order mark. -/
theorem exists_front {t : Token} (h : t.IsClean) :
    ∃ c x, t.spelledOne.toList = c :: x ∧ isMark c = t.beginsWithMark ∧
      (c ∈ ['/', '*'] → ∃ s, t = .punct c s) ∧ c ≠ '\ufeff' := by
  have hslash : ∀ d ∈ ['/', '*'], d ∈ specials := forall_mem_of_all rfl
  have horder : isIdentifierContinue '\ufeff' = false := by decide +kernel
  cases t with
  | ident i =>
    obtain ⟨c, x, htext, hstart, -⟩ := exists_start_of_isLexed h
    have hcontinue := continue_of_start hstart
    have hspecial := not_special_of_continue hcontinue
    refine ⟨c, x, htext, not_isMark hspecial, fun hc => absurd (hslash c hc) hspecial, ?_⟩
    rintro rfl
    rw [horder] at hcontinue
    cases hcontinue
  | literal s =>
    obtain ⟨c, x, htext, hc⟩ := IsLiteral.exists_start h
    have hbegins : (Token.literal s).beginsWithMark = (c == '\'') := by
      simp [beginsWithMark, htext]
    refine ⟨c, x, htext, ?_⟩
    rw [hbegins]
    rcases hc with hc | hdigit
    · obtain ⟨hmark, hfree, horder⟩ := front_of_literalStart hc
      exact ⟨hmark, fun hmem => absurd hmem hfree, horder⟩
    · have hspecial := (digit_spec hdigit).2
      have hquote : c ≠ '\'' := by
        rintro rfl
        exact hspecial (by decide)
      refine ⟨by simp [not_isMark hspecial, hquote], ?_, ?_⟩
      · exact fun hmem => absurd (hslash c hmem) hspecial
      rintro rfl
      exact absurd hdigit (by decide)
  | punct c s =>
    refine ⟨c, [], by simp [spelledOne], h.1, fun _ => ⟨s, rfl⟩, ?_⟩
    rintro rfl
    exact absurd h.1 (by decide)
  | group d ts =>
    obtain ⟨c, x, htext, hmark, hfree, horder⟩ := exists_front_group d ts
    exact ⟨c, x, htext, hmark, fun hmem => absurd hmem hfree, horder⟩

/-- A clean token has a character. -/
theorem spelledOne_ne_nil {t : Token} (h : t.IsClean) : t.spelledOne.toList ≠ [] := by
  obtain ⟨c, x, htext, -⟩ := exists_front h
  rw [htext]
  exact List.cons_ne_nil c x

/-- The line of tokens begins with a mark if the first token does and no
blank stands in front of it. -/
theorem isMark_head_line (stuck afterIdent : Bool) {ts : List Token} {k : List Char}
    (h : AreClean ts) (hk : Closes k) :
    (line stuck afterIdent ts k).head?.any isMark = meetsMark stuck afterIdent ts := by
  cases ts with
  | nil =>
    show k.head?.any isMark = false
    cases k with
    | nil => rfl
    | cons c k =>
      have hc := hk c rfl
      have all : [' ', ')', ']'].all (fun c => !isMark c) = true := by decide
      simpa using List.all_eq_true.mp all c hc
  | cons u us =>
    rw [AreClean] at h
    obtain ⟨c, x, htext, hmark, -⟩ := exists_front h.1
    rw [line_cons, htext, meetsMark]
    split
    next hsticks =>
      rw [hsticks, Bool.true_and, ← hmark]
      rfl
    next hsticks =>
      rw [Bool.not_eq_true] at hsticks
      rw [hsticks, Bool.false_and]
      rfl

/-- Behind a token that does not stick to what follows, the line goes on with
a stop. -/
theorem stops_line (afterIdent : Bool) {ts : List Token} {k : List Char} (h : AreClean ts)
    (hk : Closes k) : Stops (line false afterIdent ts k) := by
  cases ts with
  | nil =>
    intro c hc
    have hsub : ∀ d ∈ [' ', ')', ']'], d ∈ stops := forall_mem_of_all rfl
    exact hsub c (hk c hc)
  | cons u us =>
    intro c hc
    rw [line_cons, Bool.false_or] at hc
    split at hc
    next hcloses =>
      unfold closesUp at hcloses
      split at hcloses
      next mark s =>
        have hmark : (Token.punct mark s).spelledOne.toList = [mark] := by simp [spelledOne]
        rw [hmark] at hc
        obtain rfl := Option.some.inj hc
        have hsub : ∀ d ∈ [',', ';', ':', '<', '>'], d ∈ stops := forall_mem_of_all rfl
        exact hsub _ (List.contains_iff_mem.mp hcloses)
      next ts =>
        -- Arguments stand directly behind a name.
        have hgroup : (Token.group .parenthesis ts).spelledOne.toList.head? = some '(' := by
          simp [spelledOne]
        rw [List.nil_append, List.head?_append, hgroup] at hc
        obtain rfl := Option.some.inj hc
        decide
      next => cases hcloses
    next =>
      obtain rfl := Option.some.inj hc
      decide

/-- No slash and no star stands on the line directly behind a slash. -/
theorem slash_line {s : Spacing} {ts : List Token} {k : List Char}
    (hholds : (Token.punct '/' s).Holds ts) (h : AreClean ts) (hk : Closes k) :
    ∀ d ∈ (line (Token.punct '/' s).opensUp (Token.punct '/' s).isIdent ts k).head?,
      d ≠ '/' ∧ d ≠ '*' := by
  intro d hd
  cases s with
  | alone =>
    have hstop := stops_line _ h hk d hd
    have all : stops.all (fun d => d != '/' && d != '*') = true := by decide
    simpa using List.all_eq_true.mp all d hstop
  | joint =>
    have hfollows := hholds.2 rfl
    cases ts with
    | nil => cases hfollows
    | cons u us =>
      rw [AreClean] at h
      obtain ⟨c, x, htext, -, hslash, -⟩ := exists_front h.1
      have hsticks : (Token.punct '/' .joint).opensUp = true := by decide
      rw [line_cons, hsticks, htext] at hd
      obtain rfl := Option.some.inj hd
      -- Only a mark begins with one of the two, and the lexer made sure that it is neither.
      by_cases hmem : c ∈ ['/', '*']
      · obtain ⟨s, rfl⟩ := hslash hmem
        exact hfollows
      · simpa using hmem

/-- No comment starts on the line of clean tokens. -/
theorem comment_line (stuck afterIdent : Bool) {ts : List Token} {k : List Char}
    (h : AreClean ts) (hk : Closes k) {y : List Char}
    (hline : line stuck afterIdent ts k = '/' :: y) :
    ∀ d ∈ y.head?, d ≠ '/' ∧ d ≠ '*' := by
  cases ts with
  | nil =>
    have hline : k = '/' :: y := hline
    subst hline
    exact absurd (hk '/' rfl) (by decide)
  | cons u us =>
    rw [AreClean] at h
    obtain ⟨c, x, htext, -, hslash, -⟩ := exists_front h.1
    rw [line_cons] at hline
    split at hline
    next =>
      -- The first token begins with the slash, so it is that mark and nothing more.
      rw [List.nil_append, htext, List.cons_append, List.cons.injEq] at hline
      obtain ⟨rfl, rfl⟩ := hline
      obtain ⟨s, rfl⟩ := hslash (by decide)
      have hx : x = [] := by
        have hone : (Token.punct '/' s).spelledOne.toList = ['/'] := by simp [spelledOne]
        rw [hone] at htext
        exact (List.cons.inj htext).2.symm
      subst hx
      exact slash_line h.2.1 h.2.2 hk
    next => cases (List.cons.inj hline).1

/-- Behind the quote of a lifetime the line goes on with its name, or with a
literal that begins like one. -/
theorem exists_name_line {s : Spacing} {ts : List Token} {k : List Char}
    (hholds : (Token.punct '\'' s).Holds ts) (h : AreClean ts) (hk : Closes k) :
    ∃ i after,
      anyIdent? (line (Token.punct '\'' s).opensUp (Token.punct '\'' s).isIdent ts k) =
        some (i, after) ∧ ∀ d ∈ after.head?, d ≠ '\'' ∧ d ≠ '#' := by
  have hnames := hholds.1 s rfl
  have hsticks : (Token.punct '\'' s).opensUp = true := by cases s <;> decide
  cases ts with
  | nil => cases hnames
  | cons u us =>
    rw [AreClean] at h
    rw [line_cons, hsticks, Bool.true_or, if_pos rfl, List.nil_append]
    cases u with
    | ident i =>
      have hstop := stops_line (Token.ident i).isIdent h.2.2 hk
      have hhash : ∀ d ∈ (line false (Token.ident i).isIdent us k).head?,
          d ≠ '\'' ∧ d ≠ '#' := by
        intro d hd
        have := (stops_spec (hstop d hd)).2.2.2.2
        simp_all
      refine ⟨i, _, anyIdent?_text h.1 hstop.endsWord ?_, hhash⟩
      exact fun hhead => (hhash _ hhead).2 rfl
    | literal spelling =>
      -- Its letters are read as the name, and the quote behind them ends it.
      obtain ⟨i, after, hread⟩ := hnames
      obtain ⟨hlexed, htext, -⟩ := isLexed_of_anyIdent? hread
      have hend : EndsWord ('"' :: (after ++ line (Token.literal spelling).opensUp
          (Token.literal spelling).isIdent us k)) := by
        intro d hd
        obtain rfl := Option.some.inj hd
        exact continue_special (by decide)
      refine ⟨i, '"' :: (after ++ line (Token.literal spelling).opensUp
        (Token.literal spelling).isIdent us k), ?_, ?_⟩
      · show anyIdent? (spelling.toList ++ _) = _
        rw [htext, List.append_assoc, List.cons_append]
        exact anyIdent?_text hlexed hend (by simp)
      · intro d hd
        obtain rfl := Option.some.inj hd
        decide
    | punct c s => cases hnames
    | group d ts => cases hnames

/-! ### Reading a line -/

section

variable {left : List Char}

/-- A mark with its line behind it is read as the line shows it. -/
theorem cut_punct {c : Char} {s : Spacing} {ts : List Token} {k : List Char} {ls : List Lexeme}
    (hc : (Token.punct c s).IsClean) (hholds : (Token.punct c s).Holds ts) (h : AreClean ts)
    (hk : Closes k)
    (more : Cut left (line (Token.punct c s).opensUp (Token.punct c s).isIdent ts k) ls) :
    Cut left (c :: line (Token.punct c s).opensUp (Token.punct c s).isIdent ts k)
      (((Token.punct c s).respacedOne ((Token.punct c s).touches ts)).lexemesOne ++ ls) := by
  obtain ⟨hmark, -⟩ := hc
  by_cases hquote : c = '\''
  · subst hquote
    obtain ⟨i, after, hname, hafter⟩ := exists_name_line hholds h hk
    have hread := nextLexemes?_quote hname hafter
    have hrespaced : (Token.punct '\'' s).respacedOne ((Token.punct '\'' s).touches ts) =
        .punct '\'' .joint := by simp [respacedOne]
    rw [hrespaced]
    exact .front (w := ['\'']) (by simp [Lexeme.text, spelledOne]) (by decide) hread more
  · have hslash : c = '/' →
        ∀ d ∈ (line (Token.punct c s).opensUp (Token.punct c s).isIdent ts k).head?,
          d ≠ '/' ∧ d ≠ '*' := by
      rintro rfl
      exact slash_line hholds h hk
    have hread := nextLexemes?_punct hmark hquote hslash
    -- The lexer asks whether a mark starts, and the line begins with a character of one.
    have htouches : startsWithMark (line (Token.punct c s).opensUp (Token.punct c s).isIdent ts k) =
        (Token.punct c s).touches ts := by
      rw [touches, ← isMark_head_line _ _ h hk]
      cases hline : line (Token.punct c s).opensUp (Token.punct c s).isIdent ts k with
      | nil => rfl
      | cons d y =>
        rw [startsWithMark_cons]
        · rfl
        · rintro rfl
          exact comment_line _ _ h hk hline
    rw [htouches] at hread
    have hrespaced : (Token.punct c s).respacedOne ((Token.punct c s).touches ts) =
        .punct c (if (Token.punct c s).touches ts then .joint else .alone) := by
      simp [respacedOne, hquote]
    rw [hrespaced]
    exact .front (w := [c]) (by simp [Lexeme.text, spelledOne]) (by simp) hread more

mutual

/-- A clean token, with its line behind it, is cut into the lexemes of the
respaced token. -/
theorem cut_spelledOne {ts : List Token} {k : List Char} {ls : List Lexeme} (h : AreClean ts)
    (hk : Closes k) : ∀ t : Token, t.IsClean → t.Holds ts →
      Cut left (line t.opensUp t.isIdent ts k) ls →
      Cut left (t.spelledOne.toList ++ line t.opensUp t.isIdent ts k)
        ((t.respacedOne (t.touches ts)).lexemesOne ++ ls)
  | .ident i, ht, _, more => by
    have hstop := stops_line (Token.ident i).isIdent h hk
    have hread := nextLexemes?_ident ht hstop.endsName
    exact .front (l := .token (.ident i)) rfl (spelledOne_ne_nil ht) hread more
  | .literal s, ht, _, more => by
    have hstop := stops_line (Token.literal s).isIdent h hk
    have hread := nextLexemes?_literal ht hstop
    exact .front (l := .token (.literal s)) rfl (spelledOne_ne_nil ht) hread more
  | .punct c s, ht, hholds, more => by
    have hone : (Token.punct c s).spelledOne.toList = [c] := by simp [spelledOne]
    rw [hone]
    exact cut_punct ht hholds h hk more
  | .group d us, ht, _, more => by
    have hshape :
        ((Token.group d us).respacedOne ((Token.group d us).touches ts)).lexemesOne ++ ls =
          .opening d :: (lexemesOf (respaced us) ++ .closing d :: ls) := by
      simp [respacedOne, lexemesOne]
    rw [hshape]
    by_cases hbrace : d = .brace
    · subst hbrace
      -- A blank follows the opening brace, and another one is in front of the closing one.
      have hclosing := (Cut.closing (d := .brace) more).blank
      have hcloses := closes_cons (c := ' ') (by decide) (Delimiter.brace.closing.toList ++
        line (Token.group .brace us).opensUp (Token.group .brace us).isIdent ts k)
      have hinner := (cut_spelledFrom hcloses us ht true false hclosing).blank
      have hcut := Cut.opening (d := .brace) (fun y hy => by cases (List.cons.inj hy).1) hinner
      simpa [spelledOne, line, Delimiter.opening, Delimiter.closing] using hcut
    · have hcloses := closes_closing hbrace
        (line (Token.group d us).opensUp (Token.group d us).isIdent ts k)
      have hinner := cut_spelledFrom hcloses us ht true false (.closing more)
      have hcut := Cut.opening (d := d)
        (fun y hy => (comment_line true false ht hcloses hy '*' rfl).2 rfl) hinner
      simpa [spelledOne_group hbrace, line] using hcut

/-- A line of clean tokens, with something behind it, is cut into the lexemes of
the respaced tokens. -/
theorem cut_spelledFrom {k : List Char} {ls : List Lexeme} (hk : Closes k) :
    ∀ ts : List Token, AreClean ts → ∀ stuck afterIdent : Bool, Cut left k ls →
      Cut left (line stuck afterIdent ts k) (lexemesOf (respaced ts) ++ ls)
  | [], _, _, _, more => more
  | t :: ts, h, stuck, afterIdent, more => by
    rw [AreClean] at h
    have hrest := cut_spelledFrom hk ts h.2.2 t.opensUp t.isIdent more
    have hone := cut_spelledOne h.2.2 hk t h.1 h.2.1 hrest
    rw [line_cons, respaced, lexemesOf, List.append_assoc]
    split
    · exact hone
    · exact hone.blank

end

end

/-- A line of clean tokens has the respaced tokens. -/
theorem lex?_spelled {ts : List Token} (h : AreClean ts) :
    lex? (spelled ts) = some (respaced ts) := by
  have hrun := (cut_spelledFrom (k := []) nofun ts h true false .done).run
  rw [List.append_nil] at hrun
  have horder : withoutOrderMark (spelled ts).toList = line true false ts [] := by
    have hline : line true false ts [] = (spelled ts).toList := List.append_nil _
    rw [← hline]
    cases ts with
    | nil => rfl
    | cons t ts =>
      rw [AreClean] at h
      obtain ⟨c, x, htext, -, -, hc⟩ := exists_front h.1
      have hne : c.toNat ≠ 0xfeff := by
        intro hnat
        refine hc (Char.ext (UInt32.toNat_inj.mp ?_))
        exact hnat
      rw [line_cons, htext]
      -- No token begins with the mark, so the line loses nothing.
      simp [withoutOrderMark, hne]
  rw [lex?, horder, lexemes?, hrun.lexemesWithin? (Nat.le_refl _)]
  exact nest?_lexemesOf _

end Token

end EnumCompanion
