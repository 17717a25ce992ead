import EnumCompanion.Proofs.Name.Fresh
import EnumCompanion.Proofs.Name.Letters
import EnumCompanion.Proofs.Summary.Defect

/-!
# `EnumCompanion.Proofs.Companion.Locals`: local names and the companion's own

The text of a companion declares the companion as a unit struct, and where
a local name is bound, the name of a unit struct means the struct. So no
function may bind the name of the companion.

A local name starts from the name of the enum with a first small letter
and gets underscores; the name of the companion is the name of the enum
with one underscore. They meet when the first letter has no other small
form, and one underscore is needed and is enough.

* `Function.locals`: the names that a function binds.
* `fresh_eq_companion_iff`: when a local name is that of the companion.
* `companion_mem_locals_iff`: the summaries for which a function binds the
  name of the companion; `lowerCaseEnum_not_apart` is about one of them.
-/

set_option autoImplicit false

namespace EnumCompanion

/-! ### The names that are bound -/

namespace Companion

mutual

/-- The names that a statement binds. -/
def Stmt.locals : Stmt → List String
  | .forEach x _ body => x :: localsOf body
  | .ifThen _ body => localsOf body
  | .giveBack _ => []
  | .bind x _ => [x]
  | .result _ => []
  | .collect _ x body => x :: localsOf body

/-- The names that statements bind, in order. -/
def localsOf : List Stmt → List String
  | [] => []
  | s :: rest => s.locals ++ localsOf rest

end

/-- The names that a function binds: its parameter, and those in its body. -/
def Function.locals (f : Function) : List String :=
  (f.binder.map Binder.name).toList ++ localsOf f.body

@[simp] theorem locals_lookup (style : Style) (s : Summary) (p : Parameter) :
    (lookup style s p).locals = [p.name, loopName s p] := rfl

@[simp] theorem locals_associate (s : Summary) :
    (associate s).locals = ["transform", itemName s, "value"] := rfl

@[simp] theorem locals_enumList (s : Summary) : (enumList s).locals = [] := rfl

@[simp] theorem locals_table (s : Summary) : (table s).locals = [] := rfl

end Companion

namespace Name

open Text

/-! ### Small forms -/

/-- A small form that begins with the letter itself is the letter. -/
theorem eq_nil_of_smallForm {c : Char} {rest : List Char} (h : smallForm c = c :: rest) :
    rest = [] := by
  unfold smallForm changeCase at h
  split at h
  · next form hform =>
    -- The one letter with a longer small form does not begin it.
    have hc : c.toNat = 304 := by
      by_contra hne
      simp [smallExpansions, List.lookup_cons, beq_eq_false_iff_ne.mpr hne] at hform
    rw [hc] at hform
    cases hform
    have hhead : Char.ofNat 105 = c := (List.cons.inj h).1
    rw [← hhead] at hc
    exact absurd hc (by decide)
  · split at h
    · exact (List.cons.inj h).2.symm
    · exact (List.cons.inj h).2.symm

/-- If a name with a first small letter begins like the name, they are the
same. -/
theorem uncapitalize_eq_of_append {s : String} (hs : s.toList ≠ []) {xs ys : List Char}
    (h : (uncapitalize s).toList ++ xs = s.toList ++ ys) : uncapitalize s = s := by
  unfold uncapitalize at h ⊢
  cases hlist : s.toList with
  | nil => exact absurd hlist hs
  | cons c rest =>
    rw [hlist, String.toList_ofList] at h
    cases hform : smallForm c with
    | nil => exact absurd hform (changeCase_ne_nil small_past c)
    | cons d more =>
      rw [hform] at h
      obtain rfl : d = c := (List.cons.inj h).1
      obtain rfl := eq_nil_of_smallForm hform
      simp only [hform, List.singleton_append]
      rw [← hlist, String.ofList_toList]

/-! ### The name of the companion -/

theorem companion_eq_padded (name : String) : companion name = padded name 1 := rfl

/-- The name of a companion ends in an underscore, so it is none of the names
that do not. -/
theorem companion_not_mem {names : List String}
    (h : names.all (fun n => n.toList.getLast? != some '_') = true) (name : String) :
    companion name ∉ names := by
  intro hmem
  have hlast := List.all_eq_true.mp h _ hmem
  simp [companion] at hlast

/-- The name of a companion can be used unless it is taken. -/
theorem isUnavailable_companion {name : String} {taken : List String} :
    isUnavailable taken (companion name) = true ↔ companion name ∈ taken := by
  have hnot : companion name ∉ keywords ++ pathKeywords := companion_not_mem (by decide) name
  rw [isUnavailable_iff, avoided, ← List.append_assoc, List.mem_append]
  exact or_iff_right hnot

/-- A local name is that of the companion if and only if the name of the enum
begins with no other small letter, cannot be used, and can be used with an
underscore. -/
theorem fresh_eq_companion_iff {name : String} (hname : isIdentifier name = true)
    (hpath : isPathKeyword name = false) (taken : List String) :
    fresh (uncapitalize name) taken = companion name ↔
      uncapitalize name = name ∧ (isKeyword name = true ∨ name ∈ taken) ∧
        companion name ∉ taken := by
  obtain ⟨k, -, heq, hbefore, havailable⟩ := exists_fresh_eq_padded (uncapitalize name) taken
  rw [heq]
  constructor
  · intro h
    have hlist := congrArg String.toList h
    rw [toList_padded, companion_eq_padded, toList_padded] at hlist
    -- With underscores behind, the two names can only be equal if they start alike.
    have hsmall : uncapitalize name = name :=
      uncapitalize_eq_of_append (toList_ne_nil hname) hlist
    rw [hsmall, companion_eq_padded] at h
    obtain rfl : k = 1 := padded_injective name h
    rw [hsmall] at hbefore havailable
    have hunavailable := hbefore 0 Nat.one_pos
    rw [padded_zero] at hunavailable
    refine ⟨hsmall, ?_, fun hmem => ?_⟩
    · simpa [isUnavailable, hpath] using hunavailable
    · rw [← companion_eq_padded, isUnavailable_companion.mpr hmem] at havailable
      cases havailable
  · rintro ⟨hsmall, hunavailable, hfree⟩
    rw [hsmall] at hbefore havailable ⊢
    have hzero : isUnavailable taken (padded name 0) = true := by
      rw [padded_zero]
      rcases hunavailable with hkeyword | hmem
      · simp [isUnavailable, hkeyword]
      · simp [isUnavailable, hmem]
    have hone : ¬ isUnavailable taken (padded name 1) = true := fun h =>
      hfree (isUnavailable_companion.mp h)
    -- With no underscore the name cannot be used, and with one it can.
    have hk : k ≠ 0 := by
      rintro rfl
      rw [hzero] at havailable
      cases havailable
    have hk' : k ≤ 1 := Nat.le_of_not_lt fun hlt => hone (hbefore 1 hlt)
    rw [show k = 1 by omega, companion_eq_padded]

end Name

namespace Companion

open Name Text

/-! ### Functions that bind the name of the companion -/

/-- A function of a companion binds the name of the companion if and only if a
parameter has this name, or the name of the enum begins with no other small
letter and is a keyword, one of the names that `associate` binds, or the name
of a parameter. -/
theorem companion_mem_locals_iff (style : Style) {s : Summary} (h : s.defect? = none) :
    (∃ f ∈ (code style s).functions, s.companionName ∈ f.locals) ↔
      (∃ p ∈ s.parameters, p.name = s.companionName) ∨
        uncapitalize s.name = s.name ∧
          (isKeyword s.name = true ∨ s.name ∈ ["transform", "value"] ∨
            ∃ p ∈ s.parameters, p.name = s.name) := by
  obtain ⟨-, -, hnames, -⟩ := s.defect?_eq_none_iff.mp h
  have hdeclarable := hnames _ s.name_mem_names
  have hfresh := fresh_eq_companion_iff (Summary.isIdentifier_of_isDeclarable hdeclarable)
    (Summary.isPathKeyword_of_isDeclarable hdeclarable)
  have hfixed : companion s.name ∉ ["transform", "value"] := companion_not_mem (by decide) s.name
  constructor
  · rintro ⟨f, hf, hmem⟩
    simp only [code, List.mem_append, List.mem_map, List.mem_cons, List.not_mem_nil,
      or_false] at hf
    rcases hf with ⟨p, hp, rfl⟩ | rfl | rfl | rfl
    · rcases List.mem_cons.mp hmem with hargument | hloop
      · exact .inl ⟨p, hp, hargument.symm⟩
      · obtain ⟨hsmall, hunavailable, -⟩ := (hfresh [p.name]).mp (List.mem_singleton.mp hloop).symm
        refine .inr ⟨hsmall, hunavailable.imp id fun hmem => .inr ⟨p, hp, ?_⟩⟩
        exact (List.mem_singleton.mp hmem).symm
    · have hitem : companion s.name = itemName s := by
        simp only [List.mem_cons, List.not_mem_nil, or_false, not_or] at hfixed
        simpa [Summary.companionName, hfixed] using hmem
      obtain ⟨hsmall, hunavailable, -⟩ := (hfresh _).mp hitem.symm
      exact .inr ⟨hsmall, hunavailable.imp id .inl⟩
    · cases hmem
    · cases hmem
  · rintro (⟨p, hp, hargument⟩ | ⟨hsmall, hclash⟩)
    · exact ⟨lookup style s p, List.mem_append_left _ (List.mem_map_of_mem hp),
        by simp [hargument]⟩
    · -- A parameter meets the loop variable of its own lookup, all else the one of `associate`.
      have hassociate : (isKeyword s.name = true ∨ s.name ∈ ["transform", "value"]) →
          ∃ f ∈ (code style s).functions, s.companionName ∈ f.locals := by
        intro hunavailable
        have hitem : itemName s = companion s.name :=
          (hfresh _).mpr ⟨hsmall, hunavailable, hfixed⟩
        exact ⟨associate s, by simp [code], by simp [hitem, Summary.companionName]⟩
      rcases hclash with hkeyword | hfixedName | ⟨p, hp, hpname⟩
      · exact hassociate (.inl hkeyword)
      · exact hassociate (.inr hfixedName)
      · have hne : companion s.name ∉ [p.name] := by
          rw [hpname, List.mem_singleton]
          intro hsame
          have hlength := congrArg String.length hsame
          simp [companion] at hlength
        have hloop : loopName s p = companion s.name :=
          (hfresh _).mpr ⟨hsmall, .inr (by simp [hpname]), hne⟩
        exact ⟨lookup style s p, List.mem_append_left _ (List.mem_map_of_mem hp),
          by simp [hloop, Summary.companionName]⟩

/-- An enum whose name is that of its parameter, and begins with a small
letter. -/
def lowerCaseEnum : Summary where
  scope := "crate"
  name := "quarter"
  constants := ["Q1"]
  parameters := [⟨"quarter", "i32"⟩]

/-- The lookup by the parameter binds the name of the companion. -/
theorem lowerCaseEnum_bindsCompanion :
    lowerCaseEnum.defect? = none ∧
      ∃ f ∈ (code {} lowerCaseEnum).functions, lowerCaseEnum.companionName ∈ f.locals := by
  have hdefect : lowerCaseEnum.defect? = none := by decide +kernel
  have hsmall : uncapitalize lowerCaseEnum.name = lowerCaseEnum.name := by decide +kernel
  exact ⟨hdefect, (companion_mem_locals_iff {} hdefect).mpr
    (.inr ⟨hsmall, .inr (.inr ⟨_, List.mem_cons_self, rfl⟩)⟩)⟩

/-- So there are summaries without a defect for which a function binds the
name of the companion. -/
theorem lowerCaseEnum_not_apart :
    ¬ ∀ (style : Style) (s : Summary), s.defect? = none →
      ∀ f ∈ (code style s).functions, s.companionName ∉ f.locals := by
  intro hall
  have hdefect : lowerCaseEnum.defect? = none := by decide +kernel
  exact hall {} lowerCaseEnum hdefect (lookup {} lowerCaseEnum ⟨"quarter", "i32"⟩)
    List.mem_cons_self (by decide +kernel)

end Companion

end EnumCompanion
