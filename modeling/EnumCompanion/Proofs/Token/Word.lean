import EnumCompanion.Token.Lexer

/-!
# `EnumCompanion.Proofs.Token.Word`: where a word ends

The lexer takes as many characters into a word as can go on one. So a word
that is written down is read back, if what follows it begins with another
character.

* `not_start_of_blank`: no word begins with a blank.
* `stops` and `Stops`: what may follow a word or a literal on a line of
  tokens.
* `specials` and `delimiters`: characters that no word has in it.
* `afterName?_append` and `exists_word_of_afterName?`: a word is read up to
  a character that cannot go on it, and what is read is a word.
* `Ident.IsLexed`: the identifiers that can be read. `anyIdent?_text` and
  `isLexed_of_anyIdent?` are the two directions.
-/

set_option autoImplicit false

namespace EnumCompanion

open EnumCompanion.Text

/-! ### Sets of characters -/

/-- A member of a set is in its first run or in one of the others. -/
theorem Text.CodeSet.walk_cases {n first last : Nat} {rest : List Nat}
    (h : CodeSet.walk n (first :: last :: rest) false = true) :
    (first ≤ n ∧ n < last) ∨ CodeSet.walk n rest false = true := by
  rw [CodeSet.walk] at h
  split at h
  · cases h
  · rw [CodeSet.walk] at h
    split at h
    · left
      omega
    · exact Or.inr h

namespace Token

/-- The characters that the lexer passes over, by number. -/
def blanks : List Nat :=
  [9, 10, 11, 12, 13, 32, 133, 160, 5760, 8192, 8193, 8194, 8195, 8196, 8197, 8198, 8199, 8200,
    8201, 8202, 8206, 8207, 8232, 8233, 8239, 8287, 12288]

/-- A blank is one of the listed characters. -/
theorem mem_blanks {c : Char} (h : isLexicalBlank c = true) : c.toNat ∈ blanks := by
  simp only [isLexicalBlank, isWhiteSpace, CodeSet.contains, Bool.or_eq_true, beq_iff_eq] at h
  generalize c.toNat = n at h
  simp only [blanks, List.mem_cons, List.not_mem_nil, or_false]
  rcases h with (hwhite | hmark) | hmark
  · unfold whiteSpaceSet at hwhite
    iterate 10
      rcases CodeSet.walk_cases hwhite with hrun | hwhite
      · omega
    cases hwhite
  · omega
  · omega

/-- A blank begins no word. -/
theorem not_start_of_blank {c : Char} (h : isLexicalBlank c = true) :
    isIdentifierStart c = false := by
  have all : blanks.all (fun n => !(n == 95 || CodeSet.walk n identifierStartSet.turns false)) =
      true := by decide +kernel
  have hc := List.all_eq_true.mp all c.toNat (mem_blanks h)
  simp only [Bool.not_eq_true', Bool.or_eq_false_iff, beq_eq_false_iff_ne] at hc
  have hne : c ≠ '_' := by
    rintro rfl
    exact hc.1 rfl
  simp [isIdentifierStart, CodeSet.contains, hne, hc.2]

/-! ### What may follow a word -/

/-- The characters that may follow a word or a literal on a line of tokens
without a blank, and the blank. -/
def stops : List Char :=
  [' ', ',', ';', ':', '<', '>', '(', ')', ']']

/-- A text that does not go on the word or the literal in front of it. -/
def Stops (k : List Char) : Prop :=
  ∀ c ∈ k.head?, c ∈ stops

/-- A character that stops a word does not go on it, and makes no literal of
it. -/
theorem stops_spec {c : Char} (h : c ∈ stops) :
    isIdentifierContinue c = false ∧ isIdentifierStart c = false ∧ Number.isDigitOrGap c = false ∧
      hexDigit? c = none ∧
      c ∉ ['"', '#', '\'', '.', 'e', 'E', '+', '-', 'x', 'o', 'b', '_', '\\'] := by
  have all : stops.all (fun c => !isIdentifierContinue c && !isIdentifierStart c &&
      !Number.isDigitOrGap c && (hexDigit? c).isNone &&
      !(['"', '#', '\'', '.', 'e', 'E', '+', '-', 'x', 'o', 'b', '_', '\\'].contains c)) =
      true := by rfl
  have hc := List.all_eq_true.mp all c h
  simpa only [Bool.and_eq_true, Bool.not_eq_true', Option.isNone_iff_eq_none, and_assoc,
    ← Bool.not_eq_true, List.contains_iff_mem] using hc

/-! ### Words -/

/-- The characters of marks, quotes and delimiters, and the blank. -/
def specials : List Char :=
  "~!@#$%^&*-=+|;:,<.>/?'\"\\()[] ".toList ++ ['\x7b', '\x7d']

/-- The characters of delimiters. -/
def delimiters : List Char :=
  ['(', '[', '\x7b', ')', ']', '\x7d']

/-- What is checked of listed characters one by one holds of all of them. -/
theorem forall_mem_of_all {p : Char → Prop} [DecidablePred p] {cs : List Char}
    (h : cs.all (fun c => decide (p c)) = true) : ∀ c ∈ cs, p c :=
  fun c hc => of_decide_eq_true (List.all_eq_true.mp h c hc)

/-- A delimiter is special. -/
theorem special_of_delimiter : ∀ c ∈ delimiters, c ∈ specials :=
  forall_mem_of_all rfl

/-- What may open a word may go on one. -/
theorem continue_of_start {c : Char} (h : isIdentifierStart c = true) :
    isIdentifierContinue c = true := by
  unfold isIdentifierStart at h
  rcases Bool.or_eq_true_iff.mp h with hc | hc
  · rw [beq_iff_eq.mp hc]
    rfl
  · rw [isIdentifierContinue, hc, Bool.true_or]

/-- No special character goes on a word. -/
theorem continue_special {c : Char} (h : c ∈ specials) : isIdentifierContinue c = false := by
  have all : specials.all (fun c => !isIdentifierContinue c) = true := by rfl
  simpa using List.all_eq_true.mp all c h

/-- A character of a word is not special. -/
theorem not_special_of_continue {c : Char} (h : isIdentifierContinue c = true) :
    c ∉ specials := by
  intro hmem
  rw [continue_special hmem] at h
  cases h

/-- A word begins with no digit. -/
theorem isDigit_of_start {c : Char} (h : isIdentifierStart c = true) :
    Number.isDigit c = false := by
  cases hdigit : Number.isDigit c with
  | false => rfl
  | true =>
    simp only [Number.isDigit, Bool.and_eq_true, decide_eq_true_eq, Char.le_def,
      UInt32.le_iff_toNat_le] at hdigit
    have hlt : c.toNat < 65 := Nat.lt_of_le_of_lt hdigit.2 (by decide)
    have hnone : identifierStartSet.contains c = false := by
      show (if c.toNat < 65 then false else _) = false
      rw [if_pos hlt]
    have hne : c ≠ '_' := by
      rintro rfl
      revert hlt
      decide
    simp [isIdentifierStart, hnone, hne] at h

/-- A word: a character that may open a name, and such as may go on one. -/
def IsWord (w : List Char) : Prop :=
  ∃ c cs, w = c :: cs ∧ isIdentifierStart c = true ∧ ∀ d ∈ cs, isIdentifierContinue d = true

theorem IsWord.ne_nil {w : List Char} (h : IsWord w) : w ≠ [] := by
  obtain ⟨c, cs, rfl, -⟩ := h
  exact List.cons_ne_nil c cs

/-- All characters of a word may go on one, the first as well. -/
theorem continue_of_isWord {w : List Char} (h : IsWord w) :
    ∀ d ∈ w, isIdentifierContinue d = true := by
  obtain ⟨c, cs, rfl, hstart, hcs⟩ := h
  exact List.forall_mem_cons.mpr ⟨continue_of_start hstart, hcs⟩

/-- A text that does not go on the word in front of it. -/
def EndsWord (k : List Char) : Prop :=
  ∀ c ∈ k.head?, isIdentifierContinue c = false

/-- A stop ends a word. -/
theorem Stops.endsWord {k : List Char} (h : Stops k) : EndsWord k :=
  fun c hc => (stops_spec (h c hc)).1

/-- A text that neither goes on the name in front of it nor makes a literal
of it. -/
def EndsName (k : List Char) : Prop :=
  ∀ c ∈ k.head?, isIdentifierContinue c = false ∧ c ∉ ['"', '#', '\'']

/-- A stop ends a name. -/
theorem Stops.endsName {k : List Char} (h : Stops k) : EndsName k := by
  intro c hc
  obtain ⟨hcontinue, -, -, -, hmarks⟩ := stops_spec (h c hc)
  refine ⟨hcontinue, fun hmem => hmarks ?_⟩
  simp only [List.mem_cons, List.not_mem_nil, or_false] at hmem
  rcases hmem with rfl | rfl | rfl <;> decide

/-- What ends a name ends the word that it is. -/
theorem EndsName.endsWord {k : List Char} (h : EndsName k) : EndsWord k :=
  fun c hc => (h c hc).1

/-- Characters of one kind are dropped up to one of another. -/
theorem dropWhile_append_of_all {p : Char → Bool} {w k : List Char}
    (hw : ∀ d ∈ w, p d = true) (hk : ∀ c ∈ k.head?, p c = false) :
    (w ++ k).dropWhile p = k := by
  rw [List.dropWhile_append_of_pos hw]
  cases k with
  | nil => rfl
  | cons c k =>
    rw [List.dropWhile_cons_of_neg]
    rw [hk c rfl]
    decide

/-- Characters of one kind are taken up to one of another. -/
theorem takeWhile_append_of_all {p : Char → Bool} {w k : List Char}
    (hw : ∀ d ∈ w, p d = true) (hk : ∀ c ∈ k.head?, p c = false) :
    (w ++ k).takeWhile p = w := by
  rw [List.takeWhile_append_of_pos hw]
  cases k with
  | nil => simp
  | cons c k =>
    rw [List.takeWhile_cons_of_neg, List.append_nil]
    rw [hk c rfl]
    decide

/-- A word is read up to a text that does not go on it. -/
theorem afterName?_append {w k : List Char} (hw : IsWord w) (hk : EndsWord k) :
    Number.afterName? (w ++ k) = some k := by
  obtain ⟨c, cs, rfl, hstart, hcontinue⟩ := hw
  rw [List.cons_append, Number.afterName?, if_pos hstart,
    dropWhile_append_of_all hcontinue hk]

/-- What is left behind characters of one kind does not begin with one. -/
theorem head?_dropWhile {p : Char → Bool} (cs : List Char) :
    ∀ c ∈ (cs.dropWhile p).head?, p c = false := by
  intro c hc
  have := List.head?_dropWhile_not p cs
  rw [hc] at this
  simpa using this

/-- What is read as a word is one. -/
theorem exists_word_of_afterName? {cs after : List Char}
    (h : Number.afterName? cs = some after) :
    ∃ w, IsWord w ∧ cs = w ++ after ∧ EndsWord after := by
  cases cs with
  | nil => cases h
  | cons c rest =>
    rw [Number.afterName?] at h
    split at h
    next hstart =>
      obtain rfl := Option.some.inj h
      refine ⟨c :: rest.takeWhile isIdentifierContinue, ⟨c, _, rfl, hstart, ?_⟩, ?_, ?_⟩
      · exact List.all_eq_true.mp List.all_takeWhile
      · rw [List.cons_append, List.takeWhile_append_dropWhile]
      · exact head?_dropWhile rest
    next => cases h

/-! ### Identifiers -/

/-- The front of a text is what is left out of its end. -/
theorem take_length_sub {w k : List Char} : (w ++ k).take ((w ++ k).length - k.length) = w := by
  rw [List.length_append, Nat.add_sub_cancel, List.take_left]

end Token

/-- An identifier that the lexer can read. -/
def Ident.IsLexed (i : Ident) : Prop :=
  Token.IsWord i.name.toList ∧ (i.raw = true → i.name ≠ "_" ∧ isPathKeyword i.name = false)

namespace Token

/-- A word is read as an identifier, unless it is the mark of a raw one. -/
theorem anyIdent?_word {w k : List Char} (hw : IsWord w) (hk : EndsWord k)
    (hraw : ∀ y, w ++ k ≠ 'r' :: '#' :: y) :
    anyIdent? (w ++ k) = some (⟨false, String.ofList w⟩, k) := by
  unfold anyIdent?
  split
  next rest heq => exact absurd heq (hraw rest)
  next =>
    rw [afterName?_append hw hk]
    simp only [take_length_sub]

/-- An identifier is read back from its spelling. -/
theorem anyIdent?_text {i : Ident} (h : i.IsLexed) {k : List Char} (hk : EndsWord k)
    (hhash : k.head? ≠ some '#') : anyIdent? (i.text.toList ++ k) = some (i, k) := by
  obtain ⟨raw, name⟩ := i
  obtain ⟨hword, hraw⟩ := h
  cases raw with
  | true =>
    obtain ⟨hblank, hpath⟩ := hraw rfl
    have htext : (Ident.text ⟨true, name⟩).toList ++ k = 'r' :: '#' :: (name.toList ++ k) := by
      simp [Ident.text]
    rw [htext, anyIdent?, afterName?_append hword hk]
    simp only [take_length_sub, String.ofList_toList]
    rw [if_neg (by simp [hblank, hpath])]
  | false =>
    have htext : (Ident.text ⟨false, name⟩).toList = name.toList := rfl
    have hread : anyIdent? (name.toList ++ k) = some (⟨false, String.ofList name.toList⟩, k) := by
      refine anyIdent?_word hword hk fun rest heq => ?_
      -- A name holds no hash, and none follows it.
      obtain ⟨c, cs, hname, -, hcontinue⟩ := hword
      rw [hname, List.cons_append, List.cons.injEq] at heq
      cases cs with
      | nil =>
        rw [List.nil_append] at heq
        rw [heq.2] at hhash
        exact hhash rfl
      | cons d ds =>
        have hd := (List.cons.inj heq.2).1
        exact not_special_of_continue (hd ▸ hcontinue d List.mem_cons_self) (by decide)
    rw [htext, hread, String.ofList_toList]

/-- No identifier starts at a character that begins no word. -/
theorem anyIdent?_eq_none {c : Char} (h : isIdentifierStart c = false) (x : List Char) :
    anyIdent? (c :: x) = none := by
  have hr : c ≠ 'r' := by
    rintro rfl
    have hstart : isIdentifierStart 'r' = true := by rfl
    rw [hstart] at h
    cases h
  unfold anyIdent?
  split
  next heq => exact absurd (List.cons.inj heq).1 hr
  next => simp [Number.afterName?, h]

/-- What is read as an identifier can be read, and is the front of the
text. -/
theorem isLexed_of_anyIdent? {cs after : List Char} {i : Ident}
    (h : anyIdent? cs = some (i, after)) :
    i.IsLexed ∧ cs = i.text.toList ++ after ∧ EndsWord after := by
  unfold anyIdent? at h
  split at h
  next rest =>
    split at h
    next after' hafter =>
      obtain ⟨w, hword, rfl, hend⟩ := exists_word_of_afterName? hafter
      simp only [take_length_sub] at h
      -- The underscore and the words of a path cannot be raw.
      split at h
      next => cases h
      next hname =>
        simp only [Bool.or_eq_true, beq_iff_eq, not_or, Bool.not_eq_true] at hname
        obtain ⟨rfl, rfl⟩ := Prod.mk.inj (Option.some.inj h)
        exact ⟨⟨by simpa using hword, fun _ => hname⟩, by simp [Ident.text], hend⟩
    next => cases h
  next =>
    split at h
    next after' hafter =>
      obtain ⟨w, hword, rfl, hend⟩ := exists_word_of_afterName? hafter
      simp only [take_length_sub] at h
      obtain ⟨rfl, rfl⟩ := Prod.mk.inj (Option.some.inj h)
      exact ⟨⟨by simpa using hword, nofun⟩, by simp [Ident.text], hend⟩
    next => cases h

end Token

end EnumCompanion
