import EnumCompanion.Proofs.Name.Letters
import EnumCompanion.Proofs.Token.Word

/-!
# `EnumCompanion.Proofs.Name.Described`: which names of a source file a summary may carry

The lexer opens a name with `XID_Start` and goes on with `XID_Continue`. A
summary asks for `Alphabetic` and for letters, numbers and underscores. On
the first character the two differ for two symbols only, `℘` and `℮`; on
the others they differ mostly for the marks that combine with a letter,
such as an accent with a code point of its own.

* `isDescribed`: names without such characters.
* `isIdentifier_eq_isDescribed`: among the names of a source file these are
  the ones that a summary may carry.
-/

set_option autoImplicit false

namespace EnumCompanion.Name

open EnumCompanion.Text

/-- Whether the characters of a name of a source file are letters, numbers and
underscores for a summary as well. -/
def isDescribed (s : String) : Bool :=
  match s.toList with
  | [] => false
  | c :: rest => !startNotAlphabeticSet.contains c && rest.all isWordChar

/-- The two symbols that open a name without being letters. -/
theorem eq_of_startNotAlphabetic {c : Char} (h : startNotAlphabeticSet.contains c = true) :
    c.toNat = 8472 ∨ c.toNat = 8494 := by
  unfold CodeSet.contains startNotAlphabeticSet at h
  -- The set is written as two runs of one code point each.
  rcases CodeSet.walk_cases h with hrun | h
  · omega
  rcases CodeSet.walk_cases h with hrun | h
  · omega
  · cases h

/-- The two symbols are not alphabetic. -/
theorem isAlphabetic_of_startNotAlphabetic {c : Char}
    (h : startNotAlphabeticSet.contains c = true) : isAlphabetic c = false := by
  have hnone : alphabeticOnlySet.contains c = false := by
    unfold CodeSet.contains
    rcases eq_of_startNotAlphabetic h with hc | hc
    · rw [hc]
      decide +kernel
    · rw [hc]
      decide +kernel
  rw [isAlphabetic, hnone, h]
  simp

/-- Any other character that opens a name may open one in a summary. -/
theorem opens_eq {c : Char} (h : isIdentifierStart c = true) :
    (c == '_' || isAlphabetic c) = !startNotAlphabeticSet.contains c := by
  cases hsymbol : startNotAlphabeticSet.contains c with
  | true =>
    have hne : (c == '_') = false := by
      rw [beq_eq_false_iff_ne]
      rintro rfl
      exact absurd hsymbol (by decide)
    rw [hne, isAlphabetic_of_startNotAlphabetic hsymbol]
    rfl
  | false =>
    rcases Bool.or_eq_true_iff.mp h with hunderscore | hstart
    · rw [hunderscore]
      rfl
    · rw [isAlphabetic, hstart, hsymbol]
      simp

/-- A name that the lexer reads may stand in a summary if and only if all its
characters may. -/
theorem isIdentifier_eq_isDescribed {s : String} (h : Token.IsWord s.toList) (hne : s ≠ "_") :
    isIdentifier s = isDescribed s := by
  obtain ⟨c, rest, hs, hstart, -⟩ := h
  have hunderscore : (s != "_") = true := bne_iff_ne.mpr hne
  simp only [isIdentifier, isDescribed, hs, opens_eq hstart, hunderscore, Bool.and_true]
  rfl

/-- The names of a summary have such characters wherever they come from. -/
theorem isDescribed_of_isIdentifier {s : String} (h : isIdentifier s = true) :
    isDescribed s = true := by
  unfold isIdentifier at h
  unfold isDescribed
  cases hs : s.toList with
  | nil => rw [hs] at h; cases h
  | cons c rest =>
    rw [hs] at h
    simp only [Bool.and_eq_true] at h
    obtain ⟨⟨hfirst, -⟩, hrest⟩ := h
    have hsymbol : startNotAlphabeticSet.contains c = false := by
      -- A symbol is not alphabetic, so it would have to be the underscore.
      rw [← Bool.not_eq_true]
      intro hsymbol
      rw [isAlphabetic_of_startNotAlphabetic hsymbol, Bool.or_false] at hfirst
      obtain rfl := beq_iff_eq.mp hfirst
      exact absurd hsymbol (by decide)
    show (!startNotAlphabeticSet.contains c && rest.all isWordChar) = true
    rw [hsymbol]
    exact hrest

end EnumCompanion.Name
