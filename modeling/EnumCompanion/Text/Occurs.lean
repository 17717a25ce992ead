/-!
# `EnumCompanion.Text.Occurs`: texts inside texts

`occursIn part s` decides whether `part` stands somewhere in `s` without
gaps, which is what `occursIn_iff` says. The empty text stands everywhere.
-/

set_option autoImplicit false

namespace EnumCompanion.Text

/-- Whether a text stands somewhere in another. -/
def occursIn (part : List Char) : List Char → Bool
  | [] => part.isEmpty
  | c :: rest => part.isPrefixOf (c :: rest) || occursIn part rest

/-- A text occurs in another if it is a stretch of it. -/
theorem occursIn_iff (part s : List Char) : occursIn part s = true ↔ part <:+: s := by
  induction s with
  | nil => simp [occursIn, List.isEmpty_iff]
  | cons c rest ih =>
    simp only [occursIn, Bool.or_eq_true, List.isPrefixOf_iff_prefix, ih]
    exact List.infix_cons_iff.symm

end EnumCompanion.Text
