import EnumCompanion.Proofs.Declaration.Named
import EnumCompanion.Proofs.Declaration.Summary
import Mathlib.Data.List.Find

/-!
# `EnumCompanion.Proofs.Declaration.Complete`: which enums get a companion

An enum is fit for a companion if it is not generic, its variants carry no
fields and its constructors take plain names. All else that a summary could
have wrong is ruled out by the grammar: the names are names, and the types
of parameters are not blank. Only the two notions of a letter remain: an
enum is fit and has no companion when a name in it, or that of a module
around it, has a character that the lexer takes for a letter and a summary
does not.

* `Summary.defect?_eq_find?`: what a summary can have wrong if its names
  were read by the lexer.
* `companion?_eq_of_isFit`: for every enum of a source file that is fit,
  its companion, or the first name that is in the way.
* `weierstrass_isFit`: an enum that is fit and gets no companion.
-/

set_option autoImplicit false

namespace EnumCompanion

/-! ### Summaries -/

/-- A summary whose names the lexer has read is without defect if the
characters of its names may stand in a summary. -/
theorem Summary.defect?_eq_find? {s : Summary} (hscope : s.scope ≠ "")
    (hsegments : ModulePath.IsNamed s.scope)
    (hnames : ∀ n ∈ s.names, isDeclarable n = Name.isDescribed n)
    (htypes : ∀ p ∈ s.parameters, Text.isBlank p.type = false) :
    s.defect? = ((ModulePath.segments s.scope ++ s.names).find? (!Name.isDescribed ·)).map
      .notAnIdentifier := by
  have hfirst : (ModulePath.segments s.scope).find? (!Name.isIdentifier ·) =
      (ModulePath.segments s.scope).find? (!Name.isDescribed ·) :=
    List.find?_congr fun g hg => by rw [(hsegments g hg).described]
  have hthen : s.names.find? (!isDeclarable ·) = s.names.find? (!Name.isDescribed ·) :=
    List.find?_congr fun n hn => by rw [hnames n hn]
  have hblank : s.parameters.find? (fun p => Text.isBlank p.type) = none :=
    List.find?_eq_none.mpr fun p hp => by simp [htypes p hp]
  -- Segments are looked at before the other names, so the first in the way is the first of all.
  rw [defect?, if_neg hscope, hfirst, hthen, hblank, List.find?_append]
  cases (ModulePath.segments s.scope).find? (!Name.isDescribed ·) with
  | some segment => rfl
  | none => cases s.names.find? (!Name.isDescribed ·) <;> rfl

namespace Declaration

/-! ### Enums that are fit -/

/-- The declaration is of an enum that asks for a companion in the right way:
it is not generic, its variants carry no fields, and every argument of a
constructor is a plain name. -/
structure IsFit (d : Declaration) (name : Ident) (variants : List Variant) : Prop where
  item : ∃ attributes head body,
    d.item = .leaf attributes (.enumeration name false variants) head body
  units : ∀ v ∈ variants, v.isUnit = true
  plain : ∀ m ∈ constructors name d.blocks, ∀ a ∈ m.arguments,
    ∃ i, a.name = some i ∧ i.isName = true

/-- Whether the declaration is of such an enum. -/
def isFit (d : Declaration) (name : Ident) (variants : List Variant) : Bool :=
  (match d.item with
    | .leaf _ (.enumeration name' false variants') _ _ => name' == name && variants' == variants
    | _ => false) &&
  variants.all (·.isUnit) &&
  (constructors name d.blocks).all fun m => m.arguments.all fun a => a.name.any Ident.isName

variable {d : Declaration} {name : Ident} {variants : List Variant}

theorem isFit_iff : d.isFit name variants = true ↔ d.IsFit name variants := by
  simp only [isFit, Bool.and_eq_true, List.all_eq_true, Option.any_eq_true]
  constructor
  · rintro ⟨⟨hitem, hunits⟩, hplain⟩
    refine ⟨?_, hunits, hplain⟩
    split at hitem
    next attributes name' variants' head body heq =>
      rw [Bool.and_eq_true, beq_iff_eq, beq_iff_eq] at hitem
      obtain ⟨rfl, rfl⟩ := hitem
      exact ⟨attributes, head, body, heq⟩
    next => cases hitem
  · rintro ⟨⟨attributes, head, body, hitem⟩, hunits, hplain⟩
    rw [hitem]
    exact ⟨⟨by simp, hunits⟩, hplain⟩

/-- An enum that is fit has a summary. -/
theorem IsFit.summary? (h : d.IsFit name variants) (hscope : d.scope ≠ "") :
    d.summary? = .ok (some (d.plainSummary name variants)) := by
  obtain ⟨attributes, head, body, hitem⟩ := h.item
  have hplain : ∀ m ∈ constructors name d.blocks, m.IsPlain := by
    intro m hm a ha
    obtain ⟨i, hi, -⟩ := h.plain m hm a ha
    rw [hi]
    rfl
  have hsummary := enumSummary_eq_ok_iff.mpr ⟨rfl, h.units, hplain, rfl⟩
  exact summary?_eq_some_iff.mpr
    ⟨name, ⟨attributes, false, variants, head, body, hitem, hsummary⟩, hscope⟩

/-- A parameter of the summary is an argument of a constructor: its name can be
declared, and its type is not blank. -/
theorem IsFit.parameter (h : d.IsFit name variants) (hnamed : d.IsNamed) {p : Parameter}
    (hp : p ∈ (d.plainSummary name variants).parameters) :
    (∃ i : Ident, i.IsDeclared ∧ p.name = i.name) ∧ Text.isBlank p.type = false := by
  obtain ⟨m, hm, hp⟩ := List.mem_flatMap.mp hp
  obtain ⟨a, ha, hp⟩ := List.mem_filterMap.mp hp
  obtain ⟨b, hb, hmethod⟩ := List.mem_flatMap.mp (List.mem_filter.mp hm).1
  have harg := hnamed.blocks b hb m hmethod a ha
  obtain ⟨i, hname, hi⟩ := h.plain m hm a ha
  rw [Argument.parameter?, hname] at hp
  obtain rfl := Option.some.inj hp
  exact ⟨⟨i, (harg.name i hname).isDeclared hi, rfl⟩,
    Token.isBlank_spelled harg.clean harg.written⟩

/-- The names of the summary can be declared if their characters may stand in
one. -/
theorem IsFit.isDeclarable (h : d.IsFit name variants) (hnamed : d.IsNamed) {n : String}
    (hn : n ∈ (d.plainSummary name variants).names) :
    Summary.isDeclarable n = Name.isDescribed n := by
  obtain ⟨attributes, head, body, hitem⟩ := h.item
  have henum := hnamed.item
  rw [hitem] at henum
  obtain ⟨hname, hvariants⟩ := henum
  rcases List.mem_cons.mp hn with rfl | hn
  · exact hname.isDeclarable
  rcases List.mem_append.mp hn with hn | hn
  · obtain ⟨v, hv, rfl⟩ := List.mem_map.mp hn
    exact (hvariants v hv).isDeclarable
  · obtain ⟨p, hp, rfl⟩ := List.mem_map.mp hn
    obtain ⟨⟨i, hi, hpi⟩, -⟩ := h.parameter hnamed hp
    rw [hpi]
    exact hi.isDeclarable

/-! ### Companions -/

/-- The names that a companion depends on: those of the modules around the
enum, of the enum, of its variants and of the parameters. -/
def allNames (d : Declaration) (name : Ident) (variants : List Variant) : List String :=
  ModulePath.segments d.scope ++ (d.plainSummary name variants).names

/-- Every marked enum of a source file that is fit gets its companion, at any
depth of inline modules, unless the characters of a name are in the way; then
the first such name is reported. -/
theorem companion?_eq_of_isFit {text marker scope : String} {items : List Item}
    (hfile : SourceText.file? text = some items)
    (hscope : ∀ g ∈ ModulePath.segments scope, Name.isIdentifier g = true)
    (hd : d ∈ (Scan.file marker scope items).declarations) (h : d.IsFit name variants)
    (style : Companion.Style) :
    d.companion? style =
      match (d.allNames name variants).find? (!Name.isDescribed ·) with
      | none => .ok (some ⟨d.plainSummary name variants,
          (Companion.code style (d.plainSummary name variants)).text style.indentWidth⟩)
      | some n => .error (.notAnIdentifier n) := by
  have hnamed := Scan.isNamed_of_mem_file hfile hscope hd
  have hne := hnamed.scope.ne_empty
  have hdefect : (d.plainSummary name variants).defect? =
      ((d.allNames name variants).find? (!Name.isDescribed ·)).map .notAnIdentifier :=
    Summary.defect?_eq_find? hne hnamed.scope (fun n hn => h.isDeclarable hnamed hn)
      fun p hp => (h.parameter hnamed hp).2
  rw [companion?_of_some (h.summary? hne), Companion.generate, hdefect]
  cases (d.allNames name variants).find? (!Name.isDescribed ·) <;> rfl

/-- An enum in a module, with a constructor. -/
def quarterText : String :=
  "mod calendar \x7b
    #[companion] enum Quarter \x7b Q1 \x7d
    impl Quarter \x7b fn new(months: u8) -> Self \x7b Self::Q1 \x7d \x7d
  \x7d"

/-- The enum gets a companion, with its parameter. -/
theorem quarter_companion :
    ∃ items d,
      SourceText.file? quarterText = some items ∧
      (Scan.file "companion" "crate" items).declarations = [d] ∧
      d.IsFit (.plain "Quarter") [⟨.plain "Q1", true⟩] ∧
      d.allNames (.plain "Quarter") [⟨.plain "Q1", true⟩] =
        ["crate", "calendar", "Quarter", "Q1", "months"] ∧
      ∃ c, d.companion? {} = .ok (some c) := by
  -- There is no deciding whether two items are equal, so only answers about them are computed.
  have hfound : ((SourceText.file? quarterText).map fun items =>
      (Scan.file "companion" "crate" items).declarations.map fun d =>
        (d.isFit (.plain "Quarter") [⟨.plain "Q1", true⟩],
          d.allNames (.plain "Quarter") [⟨.plain "Q1", true⟩])) =
      some [(true, ["crate", "calendar", "Quarter", "Q1", "months"])] := by
    decide +kernel
  obtain ⟨items, hfile, hfound⟩ := Option.map_eq_some_iff.mp hfound
  obtain ⟨d, hd, hfound⟩ := List.map_eq_singleton_iff.mp hfound
  obtain ⟨hfit, hnames⟩ := Prod.mk.inj hfound
  have hfit := isFit_iff.mp hfit
  have hmem : d ∈ (Scan.file "companion" "crate" items).declarations := by
    rw [hd]
    exact List.mem_cons_self
  have hcompanion := companion?_eq_of_isFit hfile (by decide) hmem hfit {}
  rw [hnames] at hcompanion
  exact ⟨items, d, hfile, hd, hfit, hnames, _, hcompanion⟩

/-- An enum whose name is a symbol that opens names. -/
def weierstrassText : String :=
  "#[companion] enum ℘ \x7b A \x7d"

/-- The enum is fit, and gets no companion. -/
theorem weierstrass_isFit :
    ∃ items d,
      SourceText.file? weierstrassText = some items ∧
      (Scan.file "companion" "crate" items).declarations = [d] ∧
      d.IsFit (.plain "℘") [⟨.plain "A", true⟩] ∧
      d.companion? {} = .error (.notAnIdentifier "℘") := by
  have hfound : ((SourceText.file? weierstrassText).map fun items =>
      (Scan.file "companion" "crate" items).declarations.map fun d =>
        (d.isFit (.plain "℘") [⟨.plain "A", true⟩],
          match d.companion? {} with | .ok _ => none | .error e => some e)) =
      some [(true, some (.notAnIdentifier "℘"))] := by
    decide +kernel
  obtain ⟨items, hfile, hfound⟩ := Option.map_eq_some_iff.mp hfound
  obtain ⟨d, hd, hfound⟩ := List.map_eq_singleton_iff.mp hfound
  obtain ⟨hfit, herror⟩ := Prod.mk.inj hfound
  refine ⟨items, d, hfile, hd, isFit_iff.mp hfit, ?_⟩
  cases hcompanion : d.companion? {} with
  | ok c => rw [hcompanion] at herror; cases herror
  | error e => rw [hcompanion] at herror; rw [Option.some.inj herror]

end Declaration

end EnumCompanion
