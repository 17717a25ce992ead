import EnumCompanion.Proofs.Name.Fresh
import EnumCompanion.Proofs.Name.Letters
import EnumCompanion.Proofs.Token.Whole

/-!
# `EnumCompanion.Proofs.Name.Visible`: the names of a companion on the page

A companion writes names of three origins: those of its summary, those made
from them by a change of the first letter, and those it chooses itself. All
of them look like names where they are written (`Token.IsNameLike`): no
blank and no mark is in them, and no digit stands in front.

* `isNameLike_of_isIdentifier`: the names that a summary may carry.
* `isNameLike_lookup`, `isNameLike_accessor`, `isNameLike_uncapitalize`:
  names made from them.
* `isNameLike_fresh`: local names.
* `isWhole_spelling`: a keyword among them is spelt raw.
-/

set_option autoImplicit false

namespace EnumCompanion.Name

open EnumCompanion.Text
open EnumCompanion.Token

/-! ### Visible characters -/

/-- A character that is neither a blank nor a mark for the lexer. -/
def IsVisible (c : Char) : Prop :=
  isLexicalBlank c = false ∧ c ∉ specials

/-- No blank may stand in a name. -/
theorem isWordChar_blank {c : Char} (h : isLexicalBlank c = true) : isWordChar c = false := by
  have all : blanks.all (fun n => !(n == 95 || CodeSet.walk n alphabeticOnlySet.turns false ||
      CodeSet.walk n identifierStartSet.turns false || CodeSet.walk n numericSet.turns false)) =
      true := by decide +kernel
  have hc := List.all_eq_true.mp all c.toNat (mem_blanks h)
  simp only [Bool.not_eq_true', Bool.or_eq_false_iff, beq_eq_false_iff_ne] at hc
  have hne : c ≠ '_' := by
    rintro rfl
    exact hc.1.1.1 rfl
  simp [isWordChar, isAlphanumeric, isAlphabetic, CodeSet.contains, hne, hc]

/-- No special character may stand in a name. -/
theorem isWordChar_special {c : Char} (h : c ∈ specials) : isWordChar c = false := by
  have all : specials.all (fun c => !isWordChar c) = true := by rfl
  simpa using List.all_eq_true.mp all c h

/-- The characters of names are visible. -/
theorem isVisible_of_isWordChar {c : Char} (h : isWordChar c = true) : IsVisible c := by
  refine ⟨?_, fun hspecial => ?_⟩
  · rw [← Bool.not_eq_true]
    intro hblank
    rw [isWordChar_blank hblank] at h
    cases h
  · rw [isWordChar_special hspecial] at h
    cases h

/-- No name begins with a digit. -/
theorem isDigit_of_alphabetic {c : Char} (h : (c == '_' || isAlphabetic c) = true) :
    Number.isDigit c = false := by
  rw [← Bool.not_eq_true]
  intro hdigit
  simp only [Number.isDigit, Bool.and_eq_true, decide_eq_true_eq, Char.le_def,
    UInt32.le_iff_toNat_le] at hdigit
  have hlow : 48 ≤ c.toNat := hdigit.1
  have hhigh : c.toNat ≤ 57 := hdigit.2
  have all : (List.range 58).all (fun n => n < 48 || !(n == 95 ||
      CodeSet.walk n alphabeticOnlySet.turns false ||
      CodeSet.walk n identifierStartSet.turns false)) = true := by decide +kernel
  have hc := List.all_eq_true.mp all c.toNat (List.mem_range.mpr (by omega))
  simp only [Bool.or_eq_true, decide_eq_true_eq, Bool.not_eq_true', Bool.or_eq_false_iff,
    beq_eq_false_iff_ne] at hc
  obtain hlt | ⟨⟨hne, halphabetic⟩, hstart⟩ := hc
  · omega
  · have hunderscore : c ≠ '_' := by
      rintro rfl
      exact hne rfl
    simp [isAlphabetic, CodeSet.contains, hunderscore, halphabetic, hstart] at h

/-- A name of a summary looks like a name. -/
theorem isNameLike_of_isIdentifier {s : String} (h : isIdentifier s = true) :
    IsNameLike s.toList where
  nonempty := toList_ne_nil h
  digit := by
    intro c hc
    unfold isIdentifier at h
    obtain ⟨rest, hs⟩ := List.head?_eq_some_iff.mp hc
    rw [hs] at h
    simp only [Bool.and_eq_true] at h
    exact isDigit_of_alphabetic h.1.1
  visible := fun _ hc => isVisible_of_isWordChar (isWordChar_of_mem h hc)

/-! ### Letters of other case -/

/-- Whether a code point is one of 26 letters from `first` on, or lies past
the table of characters that these belong to, and is no blank. -/
def isLetterCode (first n : Nat) : Bool :=
  decide (first ≤ n ∧ n < first + 26) || decide (128 ≤ n) && !blanks.contains n

/-- Whether a run of letters shifts to such code points only. -/
def leadsToLetters (first : Nat) (r : CaseRun) : Bool :=
  decide (first ≤ r.first + r.shift ∧ r.last + r.shift < first + 26) ||
    decide (128 ≤ r.first + r.shift) &&
      blanks.all fun b => decide (b < r.first + r.shift) || decide (r.last + r.shift < b)

/-- A code point between those that the ends of such a run shift to is one of
them. -/
theorem isLetterCode_of_shift? {first : Nat} {r : CaseRun} (h : leadsToLetters first r = true)
    {c n : Nat} (hn : r.shift? c = some n) : isLetterCode first n = true := by
  obtain ⟨hfirst, hlast⟩ := shift?_between hn
  simp only [leadsToLetters, Bool.or_eq_true, Bool.and_eq_true, decide_eq_true_eq,
    List.all_eq_true] at h
  simp only [isLetterCode, Bool.or_eq_true, Bool.and_eq_true, decide_eq_true_eq,
    Bool.not_eq_true', ← Bool.not_eq_true, List.contains_iff_mem]
  rcases h with h | ⟨hpast, hblanks⟩
  · left
    omega
  · right
    refine ⟨by omega, fun hmem => ?_⟩
    rcases hblanks n hmem with hlt | hlt <;> omega

/-- Both case maps lead to letters. -/
theorem leadsTo_letters {first bound : Nat} {runs : List CaseRun}
    {expansions : List (Nat × List Nat)} (h : LeadsTo (bound ≤ ·) runs expansions)
    (hruns : runs.all (leadsToLetters first) = true)
    (hexpansions : expansions.all (fun e => e.2.all (isLetterCode first)) = true) :
    LeadsTo (isLetterCode first · = true) runs expansions where
  shifts := fun r hr c n hn =>
    ⟨(h.shifts r hr c n hn).1, isLetterCode_of_shift? (List.all_eq_true.mp hruns r hr) hn⟩
  nonempty := h.nonempty
  listed := fun e he n hn =>
    ⟨(h.listed e he n hn).1,
      List.all_eq_true.mp (List.all_eq_true.mp hexpansions e he) n hn⟩

theorem capital_letters : LeadsTo (isLetterCode 65 · = true) capitalRuns capitalExpansions :=
  leadsTo_letters capital_past (by decide +kernel) (by decide +kernel)

theorem small_letters : LeadsTo (isLetterCode 97 · = true) smallRuns smallExpansions :=
  leadsTo_letters small_past (by decide +kernel) (by decide +kernel)

/-- A letter is visible, and no digit. -/
theorem isVisible_of_isLetterCode {first : Nat} (hfirst : first = 65 ∨ first = 97) {c : Char}
    (h : isLetterCode first c.toNat = true) : IsVisible c ∧ Number.isDigit c = false := by
  simp only [isLetterCode, Bool.or_eq_true, Bool.and_eq_true, decide_eq_true_eq,
    Bool.not_eq_true', ← Bool.not_eq_true, List.contains_iff_mem] at h
  have hnumber : 65 ≤ c.toNat := by omega
  -- Blanks, marks and digits are all ruled out by their numbers.
  refine ⟨⟨?_, fun hspecial => ?_⟩, ?_⟩
  · rw [← Bool.not_eq_true]
    intro hblank
    have hmem := mem_blanks hblank
    rcases h with hascii | ⟨-, hnot⟩
    · have all : blanks.all (fun b => decide (b < 65 ∨ 123 ≤ b)) = true := by decide
      have := List.all_eq_true.mp all _ hmem
      simp only [decide_eq_true_eq] at this
      omega
    · exact hnot hmem
  · have all : specials.all (fun c => decide (c.toNat < 65 ∨ 91 ≤ c.toNat ∧ c.toNat < 97 ∨
        123 ≤ c.toNat ∧ c.toNat < 128)) = true := by decide
    have := List.all_eq_true.mp all c hspecial
    simp only [decide_eq_true_eq] at this
    omega
  · rw [← Bool.not_eq_true]
    intro hdigit
    simp only [Number.isDigit, Bool.and_eq_true, decide_eq_true_eq, Char.le_def,
      UInt32.le_iff_toNat_le] at hdigit
    have hhigh : c.toNat ≤ 57 := hdigit.2
    omega

/-! ### Names made from names -/

/-- Characters that are visible may be put behind a name. -/
theorem isNameLike_append {w x : List Char} (hw : IsNameLike w) (hx : ∀ c ∈ x, IsVisible c) :
    IsNameLike (w ++ x) where
  nonempty := fun hnil => hw.nonempty (List.append_eq_nil_iff.mp hnil).1
  digit := by
    intro c hc
    obtain ⟨d, ds, rfl⟩ := List.exists_cons_of_ne_nil hw.nonempty
    exact hw.digit c hc
  visible := List.forall_mem_append.mpr ⟨hw.visible, hx⟩

/-- A name with a first capital letter is visible. -/
theorem isVisible_capitalize {s : String} (h : isIdentifier s = true) :
    ∀ c ∈ (capitalize s).toList, IsVisible c := by
  intro c hc
  have hvisible := (isNameLike_of_isIdentifier h).visible
  unfold capitalize at hc
  cases hs : s.toList with
  | nil => exact absurd hs (toList_ne_nil h)
  | cons first rest =>
    rw [hs] at hvisible
    rw [hs, String.toList_ofList, List.mem_append] at hc
    rcases hc with hform | hrest
    · rcases mem_changeCase capital_letters hform with rfl | hletter
      · exact hvisible c List.mem_cons_self
      · exact (isVisible_of_isLetterCode (Or.inl rfl) hletter).1
    · exact hvisible c (List.mem_cons_of_mem _ hrest)

theorem isNameLike_lookup {s : String} (h : isIdentifier s = true) :
    IsNameLike (lookup s).toList := by
  rw [lookup, String.toList_append]
  exact isNameLike_append (isNameLike_of_isIdentifier (by rfl)) (isVisible_capitalize h)

theorem isNameLike_accessor {s : String} (h : isIdentifier s = true) :
    IsNameLike (accessor s).toList := by
  rw [accessor, String.toList_append]
  exact isNameLike_append (isNameLike_of_isIdentifier (by rfl)) (isVisible_capitalize h)

/-- A name with a first small letter looks like a name. -/
theorem isNameLike_uncapitalize {s : String} (h : isIdentifier s = true) :
    IsNameLike (uncapitalize s).toList := by
  have hname := isNameLike_of_isIdentifier h
  obtain ⟨first, rest, hs⟩ := List.exists_cons_of_ne_nil hname.nonempty
  rw [hs] at hname
  have hform : ∀ c ∈ smallForm first, IsVisible c ∧ Number.isDigit c = false := by
    intro c hc
    rcases mem_changeCase small_letters hc with rfl | hletter
    · exact ⟨hname.visible c List.mem_cons_self, hname.digit c rfl⟩
    · exact isVisible_of_isLetterCode (Or.inr rfl) hletter
  have htext : (uncapitalize s).toList = smallForm first ++ rest := by simp [uncapitalize, hs]
  obtain ⟨c, x, hc⟩ := List.exists_cons_of_ne_nil (changeCase_ne_nil small_letters first)
  have hfirst : IsNameLike (smallForm first) :=
    { nonempty := changeCase_ne_nil small_letters first
      digit := by
        intro d hd
        exact (hform d (List.mem_of_mem_head? hd)).2
      visible := fun d hd => (hform d hd).1 }
  rw [htext]
  exact isNameLike_append hfirst fun d hd => hname.visible d (List.mem_cons_of_mem _ hd)

/-- A local name looks like a name if its base does. -/
theorem isNameLike_fresh {base : String} (h : IsNameLike base.toList) (taken : List String) :
    IsNameLike (fresh base taken).toList := by
  have hunderscore : isWordChar '_' = true := by rfl
  obtain ⟨k, -, heq, -⟩ := exists_fresh_eq_padded base taken
  rw [heq, toList_padded]
  refine isNameLike_append h fun c hc => ?_
  rw [List.eq_of_mem_replicate hc]
  exact isVisible_of_isWordChar hunderscore

/-- The name of a companion looks like a name. -/
theorem isNameLike_companion {s : String} (h : isIdentifier s = true) :
    IsNameLike (companion s).toList := by
  have hunderscore : isWordChar '_' = true := by rfl
  rw [companion, String.toList_append]
  refine isNameLike_append (isNameLike_of_isIdentifier h) fun c hc => ?_
  obtain rfl := List.mem_singleton.mp hc
  exact isVisible_of_isWordChar hunderscore

/-! ### Spelling -/

/-- A keyword can be read in its raw spelling. -/
theorem isLexed_raw {s : String} (h : isKeyword s = true) : (⟨true, s⟩ : Ident).IsLexed := by
  have all : keywords.all (fun s => decide (anyIdent? ("r#" ++ s).toList = some (⟨true, s⟩, []))) =
      true := by decide +kernel
  have hread := List.all_eq_true.mp all s (List.contains_iff_mem.mp h)
  exact (isLexed_of_anyIdent? (of_decide_eq_true hread)).1

/-- A name is whole as it is spelt. -/
theorem isWhole_spelling {s : String} (h : IsNameLike s.toList) {k : List Char}
    (hk : EndsName k) : IsWhole (spelling s).toList k := by
  unfold spelling
  split
  next hkeyword =>
    have hread := nextLexemes?_ident (isLexed_raw hkeyword) hk
    have htext : (⟨true, s⟩ : Ident).text = "r#" ++ s := rfl
    rw [htext] at hread
    exact ⟨_, (lexesTo_of_next (by simp) hread).readsAs (by simp [lexemesOne])⟩
  next => exact isWhole_name h hk

end EnumCompanion.Name
