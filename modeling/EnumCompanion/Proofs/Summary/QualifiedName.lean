import EnumCompanion.Proofs.Name.Letters
import EnumCompanion.Proofs.Name.Segments
import EnumCompanion.Proofs.Summary.Defect
import EnumCompanion.Text.Cut
import Mathlib.Data.List.Basic

/-!
# `EnumCompanion.Proofs.Summary.QualifiedName`: no two companions share a name

The name under which a companion is put away joins the segments of the
module path and the name of the companion with points. Without a defect
none of these holds a point or a slash, so the name can be cut again, and
it is a name that a file can have.

* `cutAt_qualifiedName`: what cutting at the points gives.
* `qualifiedName_inj`: module path and name of the enum are known from the
  qualified name.
* `not_mem_qualifiedName`: apart from the points, it holds only characters
  that may stand in names.
-/

set_option autoImplicit false

namespace EnumCompanion

namespace Name

/-- A name holds no character that may not stand in one. -/
theorem not_mem_of_isIdentifier {s : String} (h : isIdentifier s = true) {c : Char}
    (hc : isWordChar c = false) : c ∉ s.toList := by
  intro hmem
  have hword := isWordChar_of_mem h hmem
  rw [hc] at hword
  cases hword

/-- A point may not stand in a name. -/
theorem isWordChar_point : isWordChar '.' = false := rfl

/-- A slash may not stand in a name. -/
theorem isWordChar_slash : isWordChar '/' = false := rfl

end Name

namespace Summary

open Name

/-- What is joined to the qualified name. -/
def path (s : Summary) : List String :=
  ModulePath.segments s.scope ++ [s.companionName]

/-- No part of a qualified name holds a character that may not stand in a
name. -/
theorem not_mem_of_mem_path {s : Summary} (h : s.defect? = none) {part : String}
    (hpart : part ∈ s.path) {c : Char} (hc : isWordChar c = false) : c ∉ part.toList := by
  obtain ⟨-, hsegments, hnames, -⟩ := s.defect?_eq_none_iff.mp h
  rcases List.mem_append.mp hpart with hsegment | hname
  · exact not_mem_of_isIdentifier (hsegments part hsegment) hc
  · obtain rfl := List.mem_singleton.mp hname
    have hnot : c ∉ s.name.toList :=
      not_mem_of_isIdentifier (isIdentifier_of_isDeclarable (hnames _ s.name_mem_names)) hc
    have hunderscore : c ≠ '_' := by
      rintro rfl
      cases hc
    simpa [companionName, companion] using ⟨hnot, hunderscore⟩

theorem toList_qualifiedName (s : Summary) :
    s.qualifiedName.toList = ['.'].intercalate (s.path.map String.toList) := by
  rw [qualifiedName, String.toList_intercalate]
  rfl

/-- Cutting a qualified name at its points gives what was joined. -/
theorem cutAt_qualifiedName {s : Summary} (h : s.defect? = none) :
    Text.cutAt '.' s.qualifiedName.toList = s.path.map String.toList := by
  rw [toList_qualifiedName]
  refine Text.cutAt_intercalate ?_ ?_
  · simp [path]
  · intro piece hpiece
    obtain ⟨part, hpart, rfl⟩ := List.mem_map.mp hpiece
    exact not_mem_of_mem_path h hpart isWordChar_point

/-- Two summaries without a defect have one qualified name if and only if they
have one module path and one name. -/
theorem qualifiedName_inj {s t : Summary} (hs : s.defect? = none) (ht : t.defect? = none) :
    s.qualifiedName = t.qualifiedName ↔ s.scope = t.scope ∧ s.name = t.name := by
  constructor
  · intro h
    have hpath : s.path.map String.toList = t.path.map String.toList := by
      rw [← cutAt_qualifiedName hs, h, cutAt_qualifiedName ht]
    have hpath' : s.path = t.path :=
      List.map_injective_iff.mpr (fun _ _ => String.toList_inj.mp) hpath
    obtain ⟨hsegments, hcompanion⟩ := List.append_inj' hpath' rfl
    refine ⟨ModulePath.segments_injective hsegments, ?_⟩
    -- Both companions end in the same underscore.
    exact String.append_left_inj "_" |>.mp (List.singleton_inj.mp hcompanion)
  · rintro ⟨hscope, hname⟩
    rw [qualifiedName, qualifiedName, companionName, companionName, hscope, hname]

/-- A character that may not stand in a name and is no point is not in a
qualified name. -/
theorem not_mem_qualifiedName {s : Summary} (h : s.defect? = none) {c : Char}
    (hc : isWordChar c = false) (hpoint : c ≠ '.') : c ∉ s.qualifiedName.toList := by
  intro hmem
  rw [toList_qualifiedName] at hmem
  obtain rfl | ⟨piece, hpiece, hmem⟩ := Text.eq_or_mem_of_mem_intercalate hmem
  · exact hpoint rfl
  · obtain ⟨part, hpart, rfl⟩ := List.mem_map.mp hpiece
    exact not_mem_of_mem_path h hpart hc hmem

end Summary

end EnumCompanion
