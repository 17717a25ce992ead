import EnumCompanion.Proofs.Build.Account
import EnumCompanion.Proofs.Except
import EnumCompanion.Proofs.Summary.Defect

/-!
# `EnumCompanion.Proofs.Declaration.Summary`: what a summary is made from

An enum has a summary when it is not generic, its variants carry no fields
and its constructors take plain names only, and then the summary holds
just these names.

* `enumSummary_eq_ok_iff`: when there is a summary, and what it holds.
* `companion?_eq_some_iff`: a companion comes from the summary of an enum
  and has no defect.
-/

set_option autoImplicit false

namespace EnumCompanion

/-! ### Variants and parameters -/

theorem constantNames_eq_ok_iff {enumName : String} {variants : List Variant}
    {names : List String} :
    constantNames enumName variants = .ok names ↔
      (∀ v ∈ variants, v.isUnit = true) ∧ names = variants.map (·.name.name) := by
  refine mapM_eq_ok_iff_map fun v name => ?_
  split
  · next hunit => simp [hunit, eq_comm]
  · next hunit => simp [hunit]

/-- The parameter that an argument gives, if it is a plain name. -/
def Argument.parameter? (a : Argument) : Option Parameter :=
  a.name.map fun name => ⟨name.name, Token.spelled a.type⟩

/-- The parameters of a function whose arguments are plain names. -/
def Method.plainParameters (m : Method) : List Parameter :=
  m.arguments.filterMap Argument.parameter?

/-- Whether every argument of a function is a plain name. -/
def Method.IsPlain (m : Method) : Prop :=
  ∀ a ∈ m.arguments, a.name.isSome = true

theorem Method.parameters_eq_ok_iff {enumName : String} {m : Method} {ps : List Parameter} :
    m.parameters enumName = .ok ps ↔ m.IsPlain ∧ ps = m.plainParameters := by
  unfold Method.parameters IsPlain plainParameters
  -- The induction is on the arguments; the first that is no plain name ends it.
  induction m.arguments generalizing ps with
  | nil =>
    rw [mapM_eq_ok_iff, List.forall₂_nil_left_iff]
    simp
  | cons a rest ih =>
    rw [mapM_eq_ok_iff, List.forall₂_cons_left_iff]
    constructor
    · rintro ⟨p, more, hp, hmore, rfl⟩
      obtain ⟨hplain, rfl⟩ := ih.mp (mapM_eq_ok_iff.mpr hmore)
      cases hname : a.name with
      | none => simp [hname] at hp
      | some name =>
        simp only [hname] at hp
        cases hp
        refine ⟨List.forall_mem_cons.mpr ⟨by simp [hname], hplain⟩, ?_⟩
        simp [Argument.parameter?, hname]
    · rintro ⟨hall, rfl⟩
      obtain ⟨hname, hplain⟩ := List.forall_mem_cons.mp hall
      obtain ⟨name, hname⟩ := Option.isSome_iff_exists.mp hname
      refine ⟨⟨name.name, Token.spelled a.type⟩, _, by simp [hname],
        mapM_eq_ok_iff.mp (ih.mpr ⟨hplain, rfl⟩), ?_⟩
      simp [Argument.parameter?, hname]

theorem mapM_parameters_eq_ok_iff {enumName : String} {ms : List Method}
    {pss : List (List Parameter)} :
    ms.mapM (Method.parameters enumName) = .ok pss ↔
      (∀ m ∈ ms, m.IsPlain) ∧ pss = ms.map Method.plainParameters :=
  mapM_eq_ok_iff_map fun _ _ => Method.parameters_eq_ok_iff

namespace Declaration

/-! ### Enums -/

/-- The summary of an enum that is fit for one. -/
def plainSummary (d : Declaration) (name : Ident) (variants : List Variant) : Summary where
  scope := d.scope
  name := name.name
  constants := variants.map (·.name.name)
  parameters := (constructors name d.blocks).flatMap Method.plainParameters

/-- An enum has a summary if and only if it is not generic, its variants carry
no fields and its constructors take plain names. -/
theorem enumSummary_eq_ok_iff {d : Declaration} {name : Ident} {isGeneric : Bool}
    {variants : List Variant} {s : Summary} :
    d.enumSummary name isGeneric variants = .ok s ↔
      isGeneric = false ∧ (∀ v ∈ variants, v.isUnit = true) ∧
        (∀ m ∈ constructors name d.blocks, m.IsPlain) ∧ s = d.plainSummary name variants := by
  cases isGeneric with
  | true =>
    constructor
    · intro h
      cases h
    · rintro ⟨hgeneric, -⟩
      cases hgeneric
  | false =>
    unfold enumSummary
    constructor
    · -- The two steps that can fail are the constants and the parameters.
      intro h
      obtain ⟨constants, hconstants, h⟩ := bind_eq_ok h
      obtain ⟨parameters, hparameters, h⟩ := bind_eq_ok h
      obtain ⟨hunits, rfl⟩ := constantNames_eq_ok_iff.mp hconstants
      obtain ⟨hplain, rfl⟩ := mapM_parameters_eq_ok_iff.mp hparameters
      cases h
      exact ⟨rfl, hunits, hplain, by rw [plainSummary, List.flatMap_def]⟩
    · rintro ⟨-, hunits, hplain, rfl⟩
      rw [constantNames_eq_ok_iff.mpr ⟨hunits, rfl⟩, mapM_parameters_eq_ok_iff.mpr ⟨hplain, rfl⟩,
        plainSummary, List.flatMap_def]
      rfl

/-- The declaration is of an enum with the given name, that is fit for the
given summary. -/
structure Summarizes (d : Declaration) (name : Ident) (s : Summary) : Prop where
  item : ∃ attributes isGeneric variants head body,
    d.item = .leaf attributes (.enumeration name isGeneric variants) head body ∧
      d.enumSummary name isGeneric variants = .ok s
  scope : d.scope ≠ ""

theorem summary?_eq_some_iff {d : Declaration} {s : Summary} :
    d.summary? = .ok (some s) ↔ ∃ name, d.Summarizes name s := by
  unfold summary?
  constructor
  · intro h
    split at h
    · cases h
    · next hscope =>
      split at h
      · next attributes name isGeneric variants head body hitem =>
        cases hsummary : d.enumSummary name isGeneric variants with
        | error e =>
          rw [hsummary] at h
          cases h
        | ok s' =>
          rw [hsummary] at h
          cases h
          exact ⟨name, ⟨attributes, isGeneric, variants, head, body, hitem, hsummary⟩, hscope⟩
      · cases h
  · rintro ⟨name, ⟨attributes, isGeneric, variants, head, body, hitem, hsummary⟩, hscope⟩
    rw [if_neg hscope, hitem]
    simp only [hsummary]
    rfl

/-- A companion comes from the summary of an enum, and the summary has no
defect. -/
theorem companion?_eq_some_iff {style : Companion.Style} {d : Declaration} {c : Companion} :
    d.companion? style = .ok (some c) ↔
      (∃ name, d.Summarizes name c.summary) ∧
        Companion.generate style c.summary = .ok c.text := by
  rw [← summary?_eq_some_iff]
  constructor
  · intro h
    obtain ⟨s?, hs, h⟩ := bind_eq_ok h
    cases s? with
    | none => cases h
    | some s =>
      obtain ⟨text, htext, h⟩ := bind_eq_ok h
      cases h
      exact ⟨hs, htext⟩
  · rintro ⟨hs, htext⟩
    rw [companion?_of_some hs, htext]
    rfl

/-- The summary of an enum says where the enum stands and what its name is. -/
theorem Summarizes.scope_name {d : Declaration} {name : Ident} {s : Summary}
    (h : d.Summarizes name s) : s.scope = d.scope ∧ s.name = name.name := by
  obtain ⟨_, _, _, _, _, -, hsummary⟩ := h.item
  obtain ⟨-, -, -, rfl⟩ := enumSummary_eq_ok_iff.mp hsummary
  exact ⟨rfl, rfl⟩

end Declaration

end EnumCompanion
