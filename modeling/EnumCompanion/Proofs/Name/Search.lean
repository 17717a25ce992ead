import EnumCompanion.Proofs.Name.Fresh
import Mathlib.Data.List.Dedup

/-!
# `EnumCompanion.Proofs.Name.Search`: the search for a local name ends

A search that meets a name to avoid goes on to the same name with an underscore
more. Nothing in it counts down, so `Search`, which relates a name to where the
search from it ends, sets no bound to the underscores. A bound follows from the
names in the way: the names tried are all different, and a search passes each of
them at most once.

* `search_padded` and `Search.unique`: a search ends at the first available name,
  and nowhere else.
* `le_length_obstacles`: it appends no more underscores than names are in its way.
* `fresh_least`: the search from every base ends, and `fresh` is where it ends. As
  `fresh` itself stops when its tries are used up, this says that they suffice.
-/

set_option autoImplicit false

namespace EnumCompanion.Name

/-! ### Searches -/

/-- The search from a name ends: with the name itself, if it is available, and else
where the search from the name with an underscore more does. The number is that of
the underscores appended. -/
inductive Search (taken : List String) : String → Nat → String → Prop where
  | found {name : String} (h : isUnavailable taken name = false) : Search taken name 0 name
  | append {name result : String} {n : Nat} (h : isUnavailable taken name = true)
      (rest : Search taken (name.push '_') n result) : Search taken name (n + 1) result

variable {base : String} {taken : List String}

/-- A search ends at an available name if it meets only names to avoid before. -/
theorem search_padded {k : Nat} (hbefore : ∀ j < k, isUnavailable taken (padded base j) = true)
    (hlast : isUnavailable taken (padded base k) = false) :
    Search taken base k (padded base k) := by
  induction k generalizing base with
  | zero =>
    rw [padded_zero] at hlast ⊢
    exact .found hlast
  | succ k ih =>
    have hbase : isUnavailable taken base = true := by
      have hzero := hbefore 0 (Nat.succ_pos k)
      rwa [padded_zero] at hzero
    -- The name tried after `j` more underscores is that after `j + 1` from the base.
    rw [← padded_push] at hlast ⊢
    refine .append hbase (ih ?_ hlast)
    intro j hj
    rw [padded_push]
    exact hbefore (j + 1) (by omega)

/-- A search ends in one way. -/
theorem Search.unique {n m : Nat} {result other : String} (h : Search taken base n result)
    (h' : Search taken base m other) : n = m ∧ result = other := by
  induction h generalizing m other with
  | found hfree =>
    cases h' with
    | found => exact ⟨rfl, rfl⟩
    | append htaken => exact absurd htaken (by simp [hfree])
  | append htaken _ ih =>
    cases h' with
    | found hfree => exact absurd htaken (by simp [hfree])
    | append _ rest' =>
      obtain ⟨rfl, rfl⟩ := ih rest'
      exact ⟨rfl, rfl⟩

/-! ### Names in the way -/

/-- Whether a name is the base with any number of underscores behind it. -/
def extendsBase (base name : String) : Bool :=
  name == padded base (name.length - base.length)

/-- What stands in the way of a search: the names to avoid that are the base with
underscores behind it, each of them once. -/
def obstacles (base : String) (taken : List String) : List String :=
  (avoided taken).dedup.filter (extendsBase base)

/-- The names tried are the base with underscores behind it. -/
theorem extendsBase_padded (base : String) (k : Nat) : extendsBase base (padded base k) = true := by
  have hlength : (padded base k).length - base.length = k := by
    simp [← String.length_toList, toList_padded]
  rw [extendsBase, hlength, beq_self_eq_true]

theorem mem_obstacles_iff {name : String} :
    name ∈ obstacles base taken ↔ isUnavailable taken name = true ∧ ∃ k, name = padded base k := by
  rw [obstacles, List.mem_filter, List.mem_dedup, ← isUnavailable_iff]
  constructor
  · rintro ⟨hname, hextends⟩
    exact ⟨hname, _, beq_iff_eq.mp hextends⟩
  · rintro ⟨hname, k, rfl⟩
    exact ⟨hname, extendsBase_padded base k⟩

/-- A search meets no more names to avoid than stand in its way. -/
theorem le_length_obstacles {k : Nat}
    (hbefore : ∀ j < k, isUnavailable taken (padded base j) = true) :
    k ≤ (obstacles base taken).length :=
  le_length_of_padded_mem fun j hj => mem_obstacles_iff.mpr ⟨hbefore j hj, j, rfl⟩

/-! ### Where the search ends -/

/-- For every base and all taken names, the search ends, in one way only, and appends
no more underscores than names stand in its way: it looks at these and at one name
more. The local name is where it ends, the base with these underscores. It is no keyword
of either kind and not taken, while with fewer underscores it would be one of these. -/
theorem fresh_least (base : String) (taken : List String) :
    ∃ k ≤ (obstacles base taken).length,
      (∀ n result, Search taken base n result ↔ n = k ∧ result = fresh base taken) ∧
      fresh base taken = padded base k ∧
      (isKeyword (fresh base taken) = false ∧ isPathKeyword (fresh base taken) = false ∧
        fresh base taken ∉ taken) ∧
      ∀ j < k, isKeyword (padded base j) = true ∨ isPathKeyword (padded base j) = true ∨
        padded base j ∈ taken := by
  obtain ⟨k, -, heq, hbefore, hlast⟩ := exists_fresh_eq_padded base taken
  have hsearch : Search taken base k (fresh base taken) := by
    rw [heq]
    exact search_padded hbefore hlast
  refine ⟨k, le_length_obstacles hbefore, ?_, heq, ?_, ?_⟩
  · intro n result
    constructor
    · intro h
      exact h.unique hsearch
    · rintro ⟨rfl, rfl⟩
      exact hsearch
  · exact ⟨isKeyword_fresh base taken, isPathKeyword_fresh base taken, fresh_not_mem base taken⟩
  · intro j hj
    have hj' := hbefore j hj
    simpa [isUnavailable, or_assoc] using hj'

/-- Three names stand in the way of `type`, the keyword itself among them. -/
example :
    let taken := ["type_", "types", "type__", "type_"]
    obstacles "type" taken = ["type", "type__", "type_"] ∧ fresh "type" taken = "type___" := by
  decide +kernel

end EnumCompanion.Name
