import EnumCompanion.Proofs.Name.Segments
import EnumCompanion.Proofs.Summary.Defect

/-!
# `EnumCompanion.Proofs.Summary.Validation`: which summary is refused, and why

A summary is refused for the first thing that is wrong with it. What may be
wrong, and what comes first, is said here by the characters of its texts:
`IsValid` lists the requirements, and `Reports` has a case for each of them,
in which all requirements in front of it are met.

* `isIdentifier_iff` and `isDeclarable_iff`: what a name has to be.
* `hasSegments_iff`: the segments of a module path are what stands between
  its marks, in longer runs of colons as well.
* `defect?_eq_some_iff`: the defect that is found is the one reported here.
* `generate_decides`: a companion is written for the valid summaries, and for
  every other one this defect is given.
-/

set_option autoImplicit false

namespace EnumCompanion

open EnumCompanion.Text

/-! ### Names -/

namespace Name

/-- What an identifier is: it opens with a letter or an underscore, goes on with
letters, digits and underscores, and is not the underscore alone. -/
structure IsIdentifier (s : String) : Prop where
  more : s ≠ "_"
  spelt : ∃ c rest, s.toList = c :: rest ∧ (c = '_' ∨ isAlphabetic c = true) ∧
    ∀ d ∈ rest, d = '_' ∨ isAlphanumeric d = true

theorem isIdentifier_iff {s : String} : isIdentifier s = true ↔ IsIdentifier s := by
  unfold isIdentifier
  cases hs : s.toList with
  | nil =>
    refine iff_of_false Bool.false_ne_true ?_
    rintro ⟨-, c, rest, hspelt, -⟩
    rw [hs] at hspelt
    cases hspelt
  | cons c rest =>
    simp only [Bool.and_eq_true, Bool.or_eq_true, beq_iff_eq, bne_iff_ne, List.all_eq_true]
    constructor
    · rintro ⟨⟨hopens, hmore⟩, hrest⟩
      exact ⟨hmore, c, rest, hs, hopens, hrest⟩
    · rintro ⟨hmore, c', rest', hspelt, hopens, hrest⟩
      obtain ⟨rfl, rfl⟩ := List.cons.inj (hs.symm.trans hspelt)
      exact ⟨⟨hopens, hmore⟩, hrest⟩

/-- What a declared name is: an identifier that names no path. -/
structure IsDeclarable (s : String) : Prop where
  identifier : IsIdentifier s
  noPath : s ∉ ["crate", "self", "Self", "super"]

theorem isDeclarable_iff {s : String} : Summary.isDeclarable s = true ↔ IsDeclarable s := by
  have hpath : isPathKeyword s = false ↔ s ∉ ["crate", "self", "Self", "super"] := by
    rw [isPathKeyword, pathKeywords, ← Bool.not_eq_true, List.contains_iff_mem]
  rw [Summary.isDeclarable, Bool.and_eq_true, Bool.not_eq_true', isIdentifier_iff, hpath]
  exact ⟨fun h => ⟨h.1, h.2⟩, fun h => ⟨h.1, h.2⟩⟩

end Name

/-! ### Requirements -/

namespace Summary

open Name

/-- The parts are what stands between the marks of the module path. -/
def HasSegments (s : Summary) (parts : List String) : Prop :=
  ModulePath.IsCut s.scope.toList (parts.map String.toList)

theorem hasSegments_iff {s : Summary} {parts : List String} :
    s.HasSegments parts ↔ ModulePath.segments s.scope = parts := by
  rw [HasSegments, ModulePath.isCut_iff, ModulePath.segments]
  constructor
  · intro h
    rw [h, List.map_map]
    simp
  · rintro rfl
    rw [List.map_map]
    simp [Function.comp_def]

/-- The module path is one, and made of identifiers. -/
structure HasPath (s : Summary) : Prop where
  nonempty : s.scope ≠ ""
  segments : ∃ parts, s.HasSegments parts ∧ ∀ g ∈ parts, IsIdentifier g

theorem hasPath_iff {s : Summary} :
    s.HasPath ↔ s.scope ≠ "" ∧ ∀ g ∈ ModulePath.segments s.scope, isIdentifier g = true := by
  simp only [isIdentifier_iff]
  constructor
  · rintro ⟨hne, parts, hparts, hall⟩
    rw [hasSegments_iff.mp hparts]
    exact ⟨hne, hall⟩
  · rintro ⟨hne, hall⟩
    exact ⟨hne, _, hasSegments_iff.mpr rfl, hall⟩

/-- What a summary has to be for a companion to be written. -/
structure IsValid (s : Summary) : Prop where
  path : s.HasPath
  name : IsDeclarable s.name
  constants : ∀ c ∈ s.constants, IsDeclarable c
  parameters : ∀ p ∈ s.parameters, IsDeclarable p.name
  /-- The type of a parameter holds something else than white space. -/
  types : ∀ p ∈ s.parameters, ∃ c ∈ p.type.toList, isWhiteSpace c = false

/-- The first requirement that a summary does not meet. -/
inductive Reports (s : Summary) : Defect → Prop where
  /-- There is no module path. -/
  | scope (h : s.scope = "") : Reports s .emptyNamespace
  /-- A segment is no identifier, and those in front of it are. -/
  | segment {before after : List String} {g : String} (hscope : s.scope ≠ "")
      (hsegments : s.HasSegments (before ++ g :: after)) (hbefore : ∀ b ∈ before, IsIdentifier b)
      (hg : ¬IsIdentifier g) : Reports s (.notAnIdentifier g)
  /-- A name cannot be declared, and those in front of it can: the name of the
  enum stands first, then those of the variants, then those of the
  parameters. -/
  | name {before after : List String} {n : String} (hpath : s.HasPath)
      (hnames : s.name :: (s.constants ++ s.parameters.map Parameter.name) = before ++ n :: after)
      (hbefore : ∀ b ∈ before, IsDeclarable b) (hn : ¬IsDeclarable n) :
      Reports s (.notAnIdentifier n)
  /-- The type of a parameter is white space, and those in front of it are not. -/
  | type {before after : List Parameter} {p : Parameter} (hpath : s.HasPath)
      (hnames : ∀ n ∈ s.name :: (s.constants ++ s.parameters.map Parameter.name), IsDeclarable n)
      (hparameters : s.parameters = before ++ p :: after)
      (hbefore : ∀ b ∈ before, ∃ c ∈ b.type.toList, isWhiteSpace c = false)
      (hp : ∀ c ∈ p.type.toList, isWhiteSpace c = true) : Reports s (.emptyParameterType p.name)

/-- A text that is not blank holds something else than white space. -/
theorem isBlank_eq_false_iff {t : String} :
    isBlank t = false ↔ ∃ c ∈ t.toList, isWhiteSpace c = false := by
  simp [isBlank]

/-- No defect is found in the valid summaries, and in no others. -/
theorem defect?_eq_none_iff_isValid {s : Summary} : s.defect? = none ↔ s.IsValid := by
  rw [defect?_eq_none_iff, ← and_assoc, ← hasPath_iff]
  simp only [names, List.forall_mem_cons, List.forall_mem_append, List.forall_mem_map,
    isDeclarable_iff, isBlank_eq_false_iff]
  constructor
  · rintro ⟨hpath, ⟨hname, hconstants, hparameters⟩, htypes⟩
    exact ⟨hpath, hname, hconstants, hparameters, htypes⟩
  · rintro ⟨hpath, hname, hconstants, hparameters, htypes⟩
    exact ⟨hpath, ⟨hname, hconstants, hparameters⟩, htypes⟩

/-- What a search for a fault finds is the first item that has it. -/
theorem find?_iff_first {α : Type} {fault : α → Bool} {P : α → Prop}
    (h : ∀ a, fault a = false ↔ P a) {as : List α} {a : α} :
    as.find? fault = some a ↔
      ∃ before after, as = before ++ a :: after ∧ (∀ b ∈ before, P b) ∧ ¬P a := by
  have ha : fault a = true ↔ ¬P a := by rw [← h a, Bool.not_eq_false]
  simp only [List.find?_eq_some_iff_append, Bool.not_eq_true', h, ha]
  constructor
  · rintro ⟨ha, before, after, hsplit, hbefore⟩
    exact ⟨before, after, hsplit, hbefore, ha⟩
  · rintro ⟨before, after, hsplit, hbefore, ha⟩
    exact ⟨ha, before, after, hsplit, hbefore⟩

/-- It finds nothing if no item has the fault. -/
theorem find?_eq_none_iff {α : Type} {fault : α → Bool} {P : α → Prop}
    (h : ∀ a, fault a = false ↔ P a) {as : List α} :
    as.find? fault = none ↔ ∀ a ∈ as, P a := by
  simp only [List.find?_eq_none, Bool.not_eq_true, h]

theorem not_isIdentifier_iff (g : String) : (!isIdentifier g) = false ↔ IsIdentifier g := by
  rw [Bool.not_eq_false', isIdentifier_iff]

theorem not_isDeclarable_iff (n : String) :
    (!Summary.isDeclarable n) = false ↔ IsDeclarable n := by
  rw [Bool.not_eq_false', isDeclarable_iff]

/-- The defect of a summary with a module path is one of a name or a type. -/
theorem HasPath.defect?_eq {s : Summary} (h : s.HasPath) :
    s.defect? =
      match s.names.find? (!Summary.isDeclarable ·) with
      | some name => some (.notAnIdentifier name)
      | none => (s.parameters.find? fun p => isBlank p.type).map fun p =>
          .emptyParameterType p.name := by
  obtain ⟨hscope, hsegments⟩ := hasPath_iff.mp h
  simp only [isIdentifier_iff] at hsegments
  have hfind := (find?_eq_none_iff not_isIdentifier_iff).mpr hsegments
  cases hname : s.names.find? (!Summary.isDeclarable ·) <;>
    simp only [defect?, if_neg hscope, hfind, hname]

/-- The requirement that is reported is the defect that is found. -/
theorem Reports.defect?_eq {s : Summary} {d : Defect} (h : s.Reports d) : s.defect? = some d := by
  cases h with
  | scope h => rw [defect?, if_pos h]
  | @segment before after g hscope hsegments hbefore hg =>
    have hfind : (ModulePath.segments s.scope).find? (!isIdentifier ·) = some g :=
      (find?_iff_first not_isIdentifier_iff).mpr
        ⟨before, after, hasSegments_iff.mp hsegments, hbefore, hg⟩
    rw [defect?, if_neg hscope, hfind]
  | @name before after n hpath hnames hbefore hn =>
    have hfind : s.names.find? (!Summary.isDeclarable ·) = some n :=
      (find?_iff_first not_isDeclarable_iff).mpr ⟨before, after, hnames, hbefore, hn⟩
    rw [hpath.defect?_eq, hfind]
  | @type before after p hpath hnames hparameters hbefore hp =>
    have hnone : s.names.find? (!Summary.isDeclarable ·) = none :=
      (find?_eq_none_iff not_isDeclarable_iff).mpr hnames
    have hfind : (s.parameters.find? fun p => isBlank p.type) = some p :=
      (find?_iff_first fun p => isBlank_eq_false_iff).mpr
        ⟨before, after, hparameters, hbefore, by simpa using hp⟩
    rw [hpath.defect?_eq, hnone, hfind]
    rfl

/-- Each defect that is found is reported. -/
theorem reports_of_defect? {s : Summary} {d : Defect} (h : s.defect? = some d) : s.Reports d := by
  -- The checks in their order: in each case, those before it have found nothing.
  by_cases hscope : s.scope = ""
  · rw [defect?, if_pos hscope] at h
    cases h
    exact .scope hscope
  · cases hsegment : (ModulePath.segments s.scope).find? (!isIdentifier ·) with
    | some g =>
      rw [defect?, if_neg hscope, hsegment] at h
      cases h
      obtain ⟨before, after, hsplit, hbefore, hg⟩ :=
        (find?_iff_first not_isIdentifier_iff).mp hsegment
      exact .segment hscope (hasSegments_iff.mpr hsplit) hbefore hg
    | none =>
      have hpath : s.HasPath :=
        hasPath_iff.mpr ⟨hscope, by simpa using List.find?_eq_none.mp hsegment⟩
      rw [hpath.defect?_eq] at h
      cases hname : s.names.find? (!Summary.isDeclarable ·) with
      | some n =>
        rw [hname] at h
        cases h
        obtain ⟨before, after, hsplit, hbefore, hn⟩ :=
          (find?_iff_first not_isDeclarable_iff).mp hname
        exact .name hpath hsplit hbefore hn
      | none =>
        rw [hname] at h
        obtain ⟨p, hfind, rfl⟩ := Option.map_eq_some_iff.mp h
        obtain ⟨before, after, hsplit, hbefore, hp⟩ :=
          (find?_iff_first fun p : Parameter => isBlank_eq_false_iff).mp hfind
        exact .type hpath ((find?_eq_none_iff not_isDeclarable_iff).mp hname) hsplit hbefore
          (by simpa using hp)

/-- The defect that is found is the first requirement that is not met. -/
theorem defect?_eq_some_iff {s : Summary} {d : Defect} : s.defect? = some d ↔ s.Reports d :=
  ⟨reports_of_defect?, Reports.defect?_eq⟩

end Summary

namespace Companion

/-- A companion is written for the valid summaries and no others; any other one
is answered with the first requirement that it does not meet. -/
theorem generate_decides (style : Style) (s : Summary) :
    ((∃ text, generate style s = .ok text) ↔ s.IsValid) ∧
      ∀ d, generate style s = .error d ↔ s.Reports d := by
  refine ⟨?_, fun d => ?_⟩
  · rw [← Summary.defect?_eq_none_iff_isValid]
    simp [generate_ok_iff]
  · rw [← Summary.defect?_eq_some_iff, generate]
    cases s.defect? <;> simp

end Companion

end EnumCompanion
