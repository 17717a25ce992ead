/-!
# `EnumCompanion.Text.Cut`: cutting text at a character

`cutAt c` gives the pieces of a text between the occurrences of `c`; the
empty text has one empty piece. Joining the pieces with `c` gives the text
back. `cutAt_append_cons` cuts at one occurrence, and `cutAt_intercalate`
finds the pieces of which a text was put together.
-/

set_option autoImplicit false

namespace EnumCompanion.Text

/-- The pieces between the occurrences of a character. -/
def cutAt (c : Char) : List Char → List (List Char)
  | [] => [[]]
  | x :: rest =>
    if x = c then [] :: cutAt c rest
    else
      match cutAt c rest with
      | piece :: pieces => (x :: piece) :: pieces
      | [] => [[x]]

/-- There is always a piece. -/
theorem cutAt_ne_nil (c : Char) (cs : List Char) : cutAt c cs ≠ [] := by
  cases cs with
  | nil => simp [cutAt]
  | cons x rest =>
    simp only [cutAt]
    split
    · simp
    · split <;> simp

/-- A text without the character is one piece. -/
theorem cutAt_of_not_mem {c : Char} {cs : List Char} (h : c ∉ cs) : cutAt c cs = [cs] := by
  induction cs with
  | nil => rfl
  | cons x rest ih =>
    have hx : x ≠ c := fun hx => h (hx ▸ List.mem_cons_self)
    have hrest : cutAt c rest = [rest] := ih fun hmem => h (List.mem_cons_of_mem x hmem)
    rw [cutAt, if_neg hx, hrest]

/-- What stands before an occurrence of the character and what stands behind
it are cut apart. -/
theorem cutAt_append_cons (c : Char) (cs ds : List Char) :
    cutAt c (cs ++ c :: ds) = cutAt c cs ++ cutAt c ds := by
  induction cs with
  | nil => simp [cutAt]
  | cons x cs ih =>
    rw [List.cons_append, cutAt, cutAt, ih]
    by_cases hx : x = c
    · rw [if_pos hx, if_pos hx]
      rfl
    · rw [if_neg hx, if_neg hx]
      -- The first piece gets longer, and there is one.
      cases hcut : cutAt c cs with
      | nil => exact absurd hcut (cutAt_ne_nil c cs)
      | cons piece pieces => rfl

/-- Pieces that were joined are found again. -/
theorem cutAt_intercalate {c : Char} {pieces : List (List Char)} (hne : pieces ≠ [])
    (hpieces : ∀ piece ∈ pieces, c ∉ piece) : cutAt c ([c].intercalate pieces) = pieces := by
  induction pieces with
  | nil => exact absurd rfl hne
  | cons piece pieces ih =>
    have hpiece : cutAt c piece = [piece] :=
      cutAt_of_not_mem (hpieces piece List.mem_cons_self)
    cases pieces with
    | nil => simpa using hpiece
    | cons next pieces =>
      have hrest := ih (List.cons_ne_nil _ _) fun p hp =>
        hpieces p (List.mem_cons_of_mem _ hp)
      rw [List.intercalate_cons_cons, List.append_assoc, List.singleton_append,
        cutAt_append_cons, hpiece, hrest]
      rfl

/-- What is in joined pieces is the character between them, or is in a piece. -/
theorem eq_or_mem_of_mem_intercalate {c x : Char} {pieces : List (List Char)}
    (h : x ∈ [c].intercalate pieces) : x = c ∨ ∃ piece ∈ pieces, x ∈ piece := by
  induction pieces with
  | nil => cases h
  | cons piece pieces ih =>
    cases pieces with
    | nil => exact .inr ⟨piece, List.mem_cons_self, by simpa using h⟩
    | cons next pieces =>
      rw [List.intercalate_cons_cons, List.mem_append, List.mem_append] at h
      obtain (hx | hx) | hx := h
      · exact .inr ⟨piece, List.mem_cons_self, hx⟩
      · exact .inl (List.mem_singleton.mp hx)
      · obtain hx | ⟨p, hp, hx⟩ := ih hx
        · exact .inl hx
        · exact .inr ⟨p, List.mem_cons_of_mem _ hp, hx⟩

end EnumCompanion.Text
