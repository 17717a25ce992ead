import Mathlib.Data.List.Forall2

/-!
# `EnumCompanion.Proofs.Except`: computations that may fail

Taking a computation apart that has come to a result: its steps have come
to theirs. `mapM_eq_ok_iff` and `mapM_eq_ok_iff_map` are for a step that is
taken for each item of a list, and `mapM_congr` for two lists on which the
steps come to the same.
-/

set_option autoImplicit false

namespace EnumCompanion

variable {ε α α' β : Type}

/-- Two steps that come to a result: the first does, and so does the second
from there. -/
theorem bind_eq_ok {x : Except ε α} {f : α → Except ε β} {b : β} (h : (x >>= f) = .ok b) :
    ∃ a, x = .ok a ∧ f a = .ok b := by
  cases x with
  | error e => cases h
  | ok a => exact ⟨a, rfl, h⟩

/-- The same step for each item comes to results if and only if it does for
every one. -/
theorem mapM_eq_ok_iff {f : α → Except ε β} {as : List α} {bs : List β} :
    as.mapM f = .ok bs ↔ List.Forall₂ (fun a b => f a = .ok b) as bs := by
  induction as generalizing bs with
  | nil =>
    rw [List.mapM_nil, List.forall₂_nil_left_iff]
    exact ⟨fun h => (Except.ok.inj h).symm, fun h => h ▸ rfl⟩
  | cons a as ih =>
    rw [List.mapM_cons]
    constructor
    · intro h
      obtain ⟨b, hb, h⟩ := bind_eq_ok h
      obtain ⟨rest, hrest, h⟩ := bind_eq_ok h
      cases h
      exact .cons hb (ih.mp hrest)
    · intro h
      obtain ⟨b, rest, hb, hrest, rfl⟩ := List.forall₂_cons_left_iff.mp h
      rw [hb, ih.mpr hrest]
      rfl

/-- If a step comes to a result just for the items with a property, the steps do
if and only if all items have it. -/
theorem mapM_eq_ok_iff_map {f : α → Except ε β} {P : α → Prop} {g : α → β}
    (h : ∀ a b, f a = .ok b ↔ P a ∧ b = g a) {as : List α} {bs : List β} :
    as.mapM f = .ok bs ↔ (∀ a ∈ as, P a) ∧ bs = as.map g := by
  simp only [mapM_eq_ok_iff, h]
  induction as generalizing bs with
  | nil => simp
  | cons a as ih =>
    rw [List.forall₂_cons_left_iff, List.forall_mem_cons, List.map_cons]
    constructor
    · rintro ⟨b, rest, ⟨ha, rfl⟩, hrest, rfl⟩
      obtain ⟨has, rfl⟩ := ih.mp hrest
      exact ⟨⟨ha, has⟩, rfl⟩
    · rintro ⟨⟨ha, has⟩, rfl⟩
      exact ⟨_, _, ⟨ha, rfl⟩, ih.mpr ⟨has, rfl⟩, rfl⟩

/-- Steps that come to the same for the items of two lists, one by one, come to
the same for the lists. -/
theorem mapM_congr {f : α → Except ε β} {g : α' → Except ε β} {as : List α} {bs : List α'}
    (h : List.Forall₂ (fun a b => f a = g b) as bs) : as.mapM f = bs.mapM g := by
  induction h with
  | nil => rfl
  | cons hab _ ih => rw [List.mapM_cons, List.mapM_cons, hab, ih]

end EnumCompanion
