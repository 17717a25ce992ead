import EnumCompanion.Proofs.Token.Respaced

/-!
# `EnumCompanion.Proofs.Token.Symbols`: tokens apart from their spacing

What a reader sees of tokens on a line: names, lifetimes, literals, delimiters
and marks, one after the other and at any depth. Whether two marks touch is not
among it.

* `symbols`: these, with a lifetime for a quote and the name behind it.
* `symbols_respaced`: respacing keeps them.
* `exists_recut`: the line of clean tokens is cut into lexemes with the same
  symbols.
-/

set_option autoImplicit false

namespace EnumCompanion.Token

/-! ### Symbols -/

/-- A token that is no group, or one delimiter, apart from its spacing. -/
inductive Symbol where
  | ident (name : Ident)
  | lifetime (name : Ident)
  | literal (spelling : String)
  | mark (c : Char)
  | opening (d : Delimiter)
  | closing (d : Delimiter)
  deriving DecidableEq, Repr

mutual

/-- The symbols of a token, quotes and names apart. -/
def flatOne : Token → List Symbol
  | .ident i => [.ident i]
  | .literal s => [.literal s]
  | .punct c _ => [.mark c]
  | .group d ts => .opening d :: (flat ts ++ [.closing d])

/-- The symbols of tokens, quotes and names apart. -/
def flat : List Token → List Symbol
  | [] => []
  | t :: ts => t.flatOne ++ flat ts

end

/-- A quote and the name behind it are a lifetime. -/
def withLifetimes : List Symbol → List Symbol
  | .mark '\'' :: .ident i :: rest => .lifetime i :: withLifetimes rest
  | s :: rest => s :: withLifetimes rest
  | [] => []

/-- The symbols of tokens, at any depth. -/
def symbols (ts : List Token) : List Symbol :=
  withLifetimes (flat ts)

/-! ### Respacing -/

mutual

/-- Respacing keeps the symbols of a token. -/
theorem flatOne_respacedOne (touched : Bool) :
    ∀ t : Token, (t.respacedOne touched).flatOne = t.flatOne
  | .ident i => by rw [respacedOne]
  | .literal s => by rw [respacedOne]
  | .punct c s => by rw [respacedOne, flatOne, flatOne]
  | .group d ts => by rw [respacedOne, flatOne, flatOne, flat_respaced ts]

/-- Respacing keeps the symbols of tokens. -/
theorem flat_respaced : ∀ ts : List Token, flat (respaced ts) = flat ts
  | [] => by rw [respaced]
  | t :: ts => by rw [respaced, flat, flat, flatOne_respacedOne _ t, flat_respaced ts]

end

theorem symbols_respaced (ts : List Token) : symbols (respaced ts) = symbols ts := by
  rw [symbols, symbols, flat_respaced]

/-! ### Lines -/

/-- The line of clean tokens is read as tokens with the same symbols, and cut into
the lexemes of these. -/
theorem exists_recut {ts : List Token} (h : AreClean ts) :
    ∃ us, lex? (spelled ts) = some us ∧ symbols us = symbols ts ∧
      Cut [] (spelled ts).toList (lexemesOf us) := by
  refine ⟨respaced ts, lex?_spelled h, symbols_respaced ts, ?_⟩
  have hcut := cut_spelledFrom (k := []) nofun ts h true false .done
  simpa [line, spelled] using hcut

end EnumCompanion.Token
