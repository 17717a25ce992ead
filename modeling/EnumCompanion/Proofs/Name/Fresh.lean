import EnumCompanion.Name
import Mathlib.Data.List.Nodup

/-!
# `EnumCompanion.Proofs.Name.Fresh`: a local name meets no other

`fresh` tries a base, then the base with one underscore, with two, and so
on, at most as often as there are names to avoid. As the names it tries
are all different, one of them is not to be avoided.

* `freshWithin_spec`: where a search with any number of tries ends.
* `padded_injective`: the names tried are all different. `le_length_of_padded_mem`
  counts them.
* `exists_fresh_eq_padded`: `fresh` gives the base with some underscores,
  every name with fewer is unavailable, and it is available itself.
-/

set_option autoImplicit false

namespace EnumCompanion.Name

/-! ### The names tried -/

/-- The base followed by `k` underscores. -/
def padded (base : String) (k : Nat) : String :=
  base ++ String.ofList (List.replicate k '_')

/-- Without underscores, the base. -/
@[simp] theorem padded_zero (base : String) : padded base 0 = base := by
  simp [padded]

/-- An underscore more on the base is one more in the name. -/
theorem padded_push (base : String) (k : Nat) :
    padded (base.push '_') k = padded base (k + 1) := by
  rw [← String.toList_inj]
  simp [padded, List.replicate_succ]

/-- The characters of a name tried. -/
theorem toList_padded (base : String) (k : Nat) :
    (padded base k).toList = base.toList ++ List.replicate k '_' := by
  simp [padded]

/-- The names tried are all different. -/
theorem padded_injective (base : String) : Function.Injective (padded base) := by
  intro j k h
  have hlength := congrArg List.length (String.toList_inj.mpr h)
  simpa [toList_padded] using hlength

/-- As they are different, a list that holds the first `k` of them has at least `k`
entries. -/
theorem le_length_of_padded_mem {base : String} {k : Nat} {names : List String}
    (h : ∀ j < k, padded base j ∈ names) : k ≤ names.length := by
  have hnodup : ((List.range k).map (padded base)).Nodup :=
    List.nodup_range.map (padded_injective base)
  have hsubset : (List.range k).map (padded base) ⊆ names := by
    intro name hname
    obtain ⟨j, hj, rfl⟩ := List.mem_map.mp hname
    exact h j (List.mem_range.mp hj)
  have hle := hnodup.length_le_of_subset hsubset
  rwa [List.length_map, List.length_range] at hle

/-! ### The search -/

/-- A search gives the base with as many underscores as it had to append:
it stops at the first available name, or when its tries are used up. -/
theorem freshWithin_spec (taken : List String) (tries : Nat) (base : String) :
    ∃ k ≤ tries, freshWithin taken tries base = padded base k ∧
      (∀ j < k, isUnavailable taken (padded base j) = true) ∧
      (isUnavailable taken (padded base k) = true → k = tries) := by
  induction tries generalizing base with
  | zero => exact ⟨0, Nat.le_refl 0, (padded_zero base).symm, nofun, fun _ => rfl⟩
  | succ n ih =>
    unfold freshWithin
    split
    next hbase =>
      -- The base itself is taken, and what is tried from there on has one underscore more.
      obtain ⟨k, hk, heq, hbefore, hend⟩ := ih (base.push '_')
      refine ⟨k + 1, by omega, heq.trans (padded_push base k), ?_, ?_⟩
      · intro j hj
        cases j with
        | zero => rwa [padded_zero]
        | succ j =>
          rw [← padded_push]
          exact hbefore j (by omega)
      · intro hlast
        rw [← padded_push] at hlast
        rw [hend hlast]
    next hbase =>
      refine ⟨0, Nat.zero_le _, (padded_zero base).symm, nofun, fun hlast => ?_⟩
      rw [padded_zero] at hlast
      exact absurd hlast hbase

/-- All that a local name has to avoid. -/
def avoided (taken : List String) : List String :=
  keywords ++ (pathKeywords ++ taken)

/-- The unavailable names are those to avoid. -/
theorem isUnavailable_iff {taken : List String} {name : String} :
    isUnavailable taken name = true ↔ name ∈ avoided taken := by
  simp [isUnavailable, isKeyword, isPathKeyword, avoided, or_assoc]

/-- Among the names tried, one more than there are names to avoid, one is
available. -/
theorem exists_available (base : String) (taken : List String) :
    ∃ k ≤ (avoided taken).length, isUnavailable taken (padded base k) = false := by
  by_contra hnone
  have hall : ∀ k ≤ (avoided taken).length, isUnavailable taken (padded base k) = true := by
    intro k hk
    by_contra hk'
    exact hnone ⟨k, hk, by simpa using hk'⟩
  have hle : (avoided taken).length + 1 ≤ (avoided taken).length :=
    le_length_of_padded_mem fun k hk => isUnavailable_iff.mp (hall k (Nat.le_of_lt_succ hk))
  omega

/-- The local name is the base with some underscores, no more than there are
names to avoid; with fewer it would be unavailable, and it is not. -/
theorem exists_fresh_eq_padded (base : String) (taken : List String) :
    ∃ k ≤ (avoided taken).length, fresh base taken = padded base k ∧
      (∀ j < k, isUnavailable taken (padded base j) = true) ∧
      isUnavailable taken (padded base k) = false := by
  have hlength : keywords.length + pathKeywords.length + taken.length = (avoided taken).length := by
    simp [avoided, Nat.add_assoc]
  obtain ⟨k, hk, heq, hbefore, hend⟩ := freshWithin_spec taken (avoided taken).length base
  refine ⟨k, hk, by rw [fresh, hlength, heq], hbefore, ?_⟩
  -- There are more names to try than names to avoid, so one of those tried is free.
  obtain ⟨free, hfree, havailable⟩ := exists_available base taken
  by_contra hlast
  rw [Bool.not_eq_false] at hlast
  have hk' := hend hlast
  rcases Nat.lt_or_eq_of_le (hk'.symm ▸ hfree) with hlt | rfl
  · rw [hbefore free hlt] at havailable
    cases havailable
  · rw [hlast] at havailable
    cases havailable

/-! ### What a local name is not -/

/-- The local name is available. -/
theorem isUnavailable_fresh (base : String) (taken : List String) :
    isUnavailable taken (fresh base taken) = false := by
  obtain ⟨k, -, heq, -, havailable⟩ := exists_fresh_eq_padded base taken
  rwa [heq]

/-- The local name is no keyword. -/
theorem isKeyword_fresh (base : String) (taken : List String) :
    isKeyword (fresh base taken) = false := by
  have := isUnavailable_fresh base taken
  simp only [isUnavailable, Bool.or_eq_false_iff] at this
  exact this.1.1

/-- The local name is no keyword that names a path. -/
theorem isPathKeyword_fresh (base : String) (taken : List String) :
    isPathKeyword (fresh base taken) = false := by
  have := isUnavailable_fresh base taken
  simp only [isUnavailable, Bool.or_eq_false_iff] at this
  exact this.1.2

/-- The local name is not taken. -/
theorem fresh_not_mem (base : String) (taken : List String) : fresh base taken ∉ taken := by
  intro hmem
  have := isUnavailable_fresh base taken
  simp [isUnavailable, hmem] at this

/-- The local name is not the underscore alone, if its base is neither that
nor empty. -/
theorem fresh_ne_underscore {base : String} (hempty : base ≠ "") (hunderscore : base ≠ "_")
    (taken : List String) : fresh base taken ≠ "_" := by
  obtain ⟨k, -, heq, -, -⟩ := exists_fresh_eq_padded base taken
  intro h
  have hlist : base.toList ++ List.replicate k '_' = ['_'] := by
    rw [← toList_padded, ← heq, h]
    rfl
  rcases List.append_eq_singleton_iff.mp hlist with ⟨hbase, -⟩ | ⟨hbase, -⟩
  · exact hempty (String.toList_inj.mp hbase)
  · exact hunderscore (String.toList_inj.mp hbase)

/-- A character of the local name is an underscore or one of its base. -/
theorem mem_fresh {base : String} {taken : List String} {c : Char}
    (h : c ∈ (fresh base taken).toList) : c ∈ base.toList ∨ c = '_' := by
  obtain ⟨k, -, heq, -, -⟩ := exists_fresh_eq_padded base taken
  rw [heq, toList_padded, List.mem_append] at h
  exact h.imp id List.eq_of_mem_replicate

end EnumCompanion.Name
