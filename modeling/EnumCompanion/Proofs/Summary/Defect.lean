import EnumCompanion.Companion.Text

/-!
# `EnumCompanion.Proofs.Summary.Defect`: what a summary without a defect is

`defect?` looks for the first thing wrong. `defect?_eq_none_iff` says what
it means that there is none, and `generate_ok_iff` that a companion is
written exactly then.
-/

set_option autoImplicit false

namespace EnumCompanion

namespace Summary

/-- A summary has no defect when it has a module path of identifiers, all
its names can be declared, and no parameter has a blank type. -/
theorem defect?_eq_none_iff (s : Summary) :
    s.defect? = none ↔
      s.scope ≠ "" ∧ (∀ g ∈ ModulePath.segments s.scope, Name.isIdentifier g = true) ∧
        (∀ n ∈ s.names, isDeclarable n = true) ∧
        ∀ p ∈ s.parameters, Text.isBlank p.type = false := by
  unfold defect?
  -- The checks are made in turn, and each one that finds something contradicts its condition.
  split
  next hscope => simp [hscope]
  next hscope =>
    split
    next segment hsegment =>
      refine iff_of_false nofun fun h => ?_
      have hnot := List.find?_some hsegment
      rw [h.2.1 segment (List.mem_of_find?_eq_some hsegment)] at hnot
      cases hnot
    next hsegments =>
      split
      next name hname =>
        refine iff_of_false nofun fun h => ?_
        have hnot := List.find?_some hname
        rw [h.2.2.1 name (List.mem_of_find?_eq_some hname)] at hnot
        cases hnot
      next hnames =>
        simp only [List.find?_eq_none, Bool.not_eq_true', Bool.not_eq_false] at hsegments hnames
        simp only [Option.map_eq_none_iff, List.find?_eq_none, Bool.not_eq_true]
        exact ⟨fun h => ⟨hscope, hsegments, hnames, h⟩, fun h => h.2.2.2⟩

/-- A name that can be declared is an identifier. -/
theorem isIdentifier_of_isDeclarable {name : String} (h : isDeclarable name = true) :
    Name.isIdentifier name = true := by
  simp only [isDeclarable, Bool.and_eq_true] at h
  exact h.1

/-- A name that can be declared is no keyword without a raw form. -/
theorem isPathKeyword_of_isDeclarable {name : String} (h : isDeclarable name = true) :
    isPathKeyword name = false := by
  simp only [isDeclarable, Bool.and_eq_true, Bool.not_eq_true'] at h
  exact h.2

/-- The name of an enum is one of the names of its summary. -/
theorem name_mem_names (s : Summary) : s.name ∈ s.names :=
  List.mem_cons_self

/-- The variants are among the names of a summary. -/
theorem mem_names_of_mem_constants {s : Summary} {v : String} (h : v ∈ s.constants) :
    v ∈ s.names :=
  List.mem_cons_of_mem _ (List.mem_append_left _ h)

/-- The names of the parameters are among the names of a summary. -/
theorem mem_names_of_mem_parameters {s : Summary} {p : Parameter} (h : p ∈ s.parameters) :
    p.name ∈ s.names :=
  List.mem_cons_of_mem _ (List.mem_append_right _ (List.mem_map_of_mem h))

/-- The names of a summary without a defect are identifiers. -/
theorem isIdentifier_names {s : Summary} (h : s.defect? = none) :
    ∀ n ∈ s.names, Name.isIdentifier n = true :=
  fun n hn => isIdentifier_of_isDeclarable ((s.defect?_eq_none_iff.mp h).2.2.1 n hn)

end Summary

namespace Companion

/-- A companion is written when the summary has no defect, and it is the text
of its code. -/
theorem generate_ok_iff {style : Style} {s : Summary} {text : String} :
    generate style s = .ok text ↔
      s.defect? = none ∧ text = (code style s).text style.indentWidth := by
  unfold generate
  cases s.defect? with
  | none => simp [eq_comm]
  | some d => simp

end Companion

end EnumCompanion
