import EnumCompanion.Proofs.Token.NumberEnd
import EnumCompanion.Token.Spelled

/-!
# `EnumCompanion.Proofs.Token.Clean`: tokens that can be written down

Not every list of tokens has a text. The lexer reads no name that is none,
no literal that does not end where it ends, and no quote of a lifetime
without the name. A list is clean if nothing of the kind is in it, in
groups as well; then it can be written down and read again.

A slash that is joint is the beginning of an operator. What follows it may
not make it the beginning of a comment.

* `areClean_append`: clean lists can be put together.
* `AreClean.suffix`: what is left of a clean list is clean.
* `IsLiteral.exists_start` and `exists_start_of_isLexed`: the first
  characters of literals and names, by which the lexer tells them.
-/

set_option autoImplicit false

namespace EnumCompanion.Token

open EnumCompanion.Text

/-! ### Clean tokens -/

/-- A literal that is read back before any stop. -/
def IsLiteral (s : String) : Prop :=
  s.toList = unexpanded ∨ ∀ k, Stops k → afterLiteral? (s.toList ++ k) = some k

/-- The name of a lifetime, or a literal that the lexer takes for one at
first sight, as `r` in the two tokens of `'r"x"`. -/
def NamesLifetime : List Token → Prop
  | .ident _ :: _ => True
  | .literal s :: _ => ∃ i after, anyIdent? s.toList = some (i, '"' :: after)
  | _ => False

/-- Something that makes no comment of a slash in front of it. -/
def FollowsSlash : List Token → Prop
  | .punct c _ :: _ => c ≠ '/' ∧ c ≠ '*'
  | _ :: _ => True
  | [] => False

/-- A token is followed by what it has to be followed by. -/
def Holds (t : Token) (ts : List Token) : Prop :=
  (∀ s, t = .punct '\'' s → NamesLifetime ts) ∧ (t = .punct '/' .joint → FollowsSlash ts)

mutual

/-- A token that can be written down and read again. -/
def IsClean : Token → Prop
  | .ident i => i.IsLexed
  | .literal s => IsLiteral s
  | .punct c s => isMark c = true ∧ (c = '\'' → s = .joint)
  | .group _ ts => AreClean ts

/-- Tokens that can be written down and read again. -/
def AreClean : List Token → Prop
  | [] => True
  | t :: ts => t.IsClean ∧ t.Holds ts ∧ AreClean ts

end

/-! ### Lists of clean tokens -/

/-- More tokens at the end leave a token followed by what it has to be
followed by. -/
theorem Holds.append {t : Token} {ts us : List Token} (h : t.Holds ts) : t.Holds (ts ++ us) := by
  obtain ⟨hquote, hslash⟩ := h
  constructor
  · intro s ht
    have hnames := hquote s ht
    cases ts with
    | nil => cases hnames
    | cons u ts => cases u <;> exact hnames
  · intro ht
    have hfollows := hslash ht
    cases ts with
    | nil => cases hfollows
    | cons u ts => cases u <;> exact hfollows

/-- Clean lists can be put together: none of them ends in the middle of a
lifetime or of an operator. -/
theorem areClean_append {ts us : List Token} (hts : AreClean ts) (hus : AreClean us) :
    AreClean (ts ++ us) := by
  induction ts with
  | nil => exact hus
  | cons t ts ih =>
    rw [AreClean] at hts
    rw [List.cons_append, AreClean]
    exact ⟨hts.1, hts.2.1.append, ih hts.2.2⟩

/-- What is left of a clean list is clean. -/
theorem AreClean.suffix {ts us : List Token} (h : AreClean (ts ++ us)) : AreClean us := by
  induction ts with
  | nil => exact h
  | cons t ts ih =>
    rw [List.cons_append, AreClean] at h
    exact ih h.2.2

/-! ### First characters -/

/-- The characters other than digits that a literal may begin with. -/
def literalStarts : List Char :=
  ['"', 'r', 'b', 'c', '\'']

/-- A literal begins with one of a few letters, with a quote or with a
digit. -/
theorem exists_start_of_afterLiteral? {cs k : List Char} (h : afterLiteral? cs = some k) :
    ∃ c x, cs = c :: x ∧ (c ∈ literalStarts ∨ Number.isDigit c = true) := by
  cases cs with
  | nil => cases h
  | cons c x =>
    refine ⟨c, x, rfl, ?_⟩
    rcases Option.or_eq_some_iff.mp h with hstring | ⟨-, h⟩
    · left
      unfold afterString? at hstring
      split at hstring <;> simp_all [literalStarts]
    rcases Option.or_eq_some_iff.mp h with hcharacter | ⟨-, hnumber⟩
    · left
      unfold afterCharacter? at hcharacter
      split at hcharacter <;> simp_all [literalStarts]
    · right
      simpa using isDigit_of_afterNumber? hnumber

/-- A literal begins like one, or with the parenthesis of what no tool could
expand. -/
theorem IsLiteral.exists_start {s : String} (h : IsLiteral s) :
    ∃ c x, s.toList = c :: x ∧ (c ∈ '(' :: literalStarts ∨ Number.isDigit c = true) := by
  rcases h with hs | hs
  · exact ⟨'(', _, hs, Or.inl List.mem_cons_self⟩
  · have hread := hs [] nofun
    rw [List.append_nil] at hread
    obtain ⟨c, x, hx, hc⟩ := exists_start_of_afterLiteral? hread
    exact ⟨c, x, hx, hc.imp_left (List.mem_cons_of_mem _)⟩

/-- A name begins like a word; a hash may stand further on. -/
theorem exists_start_of_isLexed {i : Ident} (h : i.IsLexed) :
    ∃ c x, i.text.toList = c :: x ∧ isIdentifierStart c = true ∧
      ∀ d ∈ x, isIdentifierContinue d = true ∨ d = '#' := by
  obtain ⟨raw, name⟩ := i
  obtain ⟨⟨c, x, hname, hstart, hcontinue⟩, -⟩ := h
  simp only at hname
  cases raw with
  | false => exact ⟨c, x, hname, hstart, fun d hd => Or.inl (hcontinue d hd)⟩
  | true =>
    refine ⟨'r', '#' :: c :: x, by simp [Ident.text, hname], by rfl, ?_⟩
    intro d hd
    rcases List.mem_cons.mp hd with rfl | hd
    · exact Or.inr rfl
    · left
      rcases List.mem_cons.mp hd with rfl | hd
      · exact continue_of_start hstart
      · exact hcontinue d hd

end EnumCompanion.Token
