import EnumCompanion.Proofs.Companion.Constants
import EnumCompanion.Proofs.Declaration.Exact
import EnumCompanion.Proofs.Summary.Forms
import EnumCompanion.Scan
import EnumCompanion.SourceText

/-!
# `EnumCompanion.Proofs.Companion.Repeated`: constants that are named twice

A summary comes about in three ways: from an enum, from a document, or from
nothing by adding constants and parameters, which may also be added to a summary
of the other two kinds. On none of these ways is a name dropped because it was
there before, and validation does not object to it either. An enum with the
variants `A` and `r#A` names `A` twice, as the mark of a raw name does not count.

* `Summary.Arises`: the ways to a summary, with the names that are given as
  constants there. `Arises.constants_eq`: the summary has these, by induction on
  the way.
* `find?_eraseDups` and `defect?_withoutRepeats`: a name that is there a second
  time makes no difference to the first defect.
* `declared` and `declared_code`: the constants that the text of a companion
  declares.
* `generate_repeats`: a companion with repeated constants is written like any
  other, and declares all of them. `repeatedVariant_generates` is such a companion,
  which every way leads to.
-/

set_option autoImplicit false

namespace EnumCompanion

open EnumCompanion.Text

/-! ### Where constants come from -/

/-- The document lists the names as constants: as the third of its values, or
under their key. -/
inductive Document.NamesConstants (names : List String) : Document → Prop where
  | list {scope name : Document} {parameters : List Document} :
      NamesConstants names (.list (scope :: name :: .list (names.map .text) :: parameters))
  | object {entries : List (String × Document)}
      (h : ("constant_names", .list (names.map .text)) ∈ entries) :
      NamesConstants names (.object entries)

namespace Summary

/-- The ways to a summary, with the names that are given as constants on the
way. -/
inductive Arises : Summary → List String → Prop where
  /-- There is nothing yet. -/
  | empty (scope name : String) : Arises (Summary.empty scope name) []
  /-- The variants of an enum are taken over, without the mark of a raw name. -/
  | ofEnum {d : Declaration} {name : Ident} {isGeneric : Bool} {variants : List Variant}
      {s : Summary} (hitem : d.DeclaresEnum name isGeneric variants)
      (h : d.summary? = .ok (some s)) : Arises s (variants.map (·.name.name))
  /-- The constants of a document are taken over. -/
  | ofDocument {document : Document} {names : List String} {s : Summary}
      (hnames : document.NamesConstants names) (h : ofDocument? document = some s) : Arises s names
  /-- Constants are added. -/
  | addConstants {s : Summary} {given : List String} (h : Arises s given) (names : List String) :
      Arises (s.addConstants names) (given ++ names)
  /-- A parameter is added. -/
  | addParameter {s : Summary} {given : List String} (h : Arises s given) (p : Parameter) :
      Arises (s.addParameter p) given

theorem constants_of_texts {constants names : List String}
    (h : constants.map Document.text = names.map .text) : constants = names :=
  List.map_injective_iff.mpr (fun _ _ htext => Document.text.inj htext) h

/-- The constants of a document are those of the summary that is read from it. -/
theorem constants_of_ofDocument? {document : Document} {names : List String} {s : Summary}
    (hnames : document.NamesConstants names) (h : ofDocument? document = some s) :
    s.constants = names := by
  have hform := form_of_ofDocument? h
  cases hnames with
  | list =>
    generalize hdocument : Document.list _ = document at hform
    cases hform with
    | object => cases hdocument
    | list hparameters =>
      have hvalues := Document.list.inj hdocument
      simp only [fields, List.map_cons, List.cons_append, List.cons.injEq, Document.list.injEq]
        at hvalues
      exact (constants_of_texts hvalues.2.2.1).symm
  | @object entries hentry =>
    cases hform with
    | object hparameters hshows =>
      -- There is no other entry under the key.
      have honly := (shows_fields_iff.mp hshows).2.2.1
      have hmem : ("constant_names", Document.list (names.map .text)) ∈
          entries.filter (·.1 == "constant_names") :=
        List.mem_filter.mpr ⟨hentry, rfl⟩
      rw [honly, List.mem_singleton, Prod.mk.injEq, Document.list.injEq] at hmem
      exact (constants_of_texts hmem.2).symm

/-- The constants of an enum's summary are its variants. -/
theorem constants_of_summary? {d : Declaration} {name : Ident} {isGeneric : Bool}
    {variants : List Variant} {s : Summary} (hitem : d.DeclaresEnum name isGeneric variants)
    (h : d.summary? = .ok (some s)) : s.constants = variants.map (·.name.name) := by
  obtain ⟨_, ⟨attributes, _, _, head, body, heq, hsummary⟩, -⟩ :=
    Declaration.summary?_eq_some_iff.mp h
  obtain ⟨attributes', head', body', heq'⟩ := hitem
  rw [heq'] at heq
  cases heq
  obtain ⟨-, -, -, rfl⟩ := Declaration.enumSummary_eq_ok_iff.mp hsummary
  rfl

/-- A summary has the constants that were given, all of them and in order. -/
theorem Arises.constants_eq {s : Summary} {given : List String} (h : s.Arises given) :
    s.constants = given := by
  induction h with
  | empty scope name => rfl
  | ofEnum hitem h => exact constants_of_summary? hitem h
  | ofDocument hnames h => exact constants_of_ofDocument? hnames h
  | addConstants _ names ih => exact congrArg (· ++ names) ih
  | addParameter _ p ih => exact ih

/-! ### Validation -/

/-- The first item with a property is the same where only the first of equal
items are kept. -/
theorem find?_eraseDups {α : Type} [BEq α] [LawfulBEq α] (p : α → Bool) (as : List α) :
    as.eraseDups.find? p = as.find? p := by
  cases as with
  | nil => rfl
  | cons a rest =>
    rw [List.eraseDups_cons, List.find?_cons, List.find?_cons, find?_eraseDups]
    cases ha : p a with
    | true => rfl
    | false =>
      -- What is equal to the first item does not have the property either.
      show (rest.filter (!· == a)).find? p = rest.find? p
      rw [List.find?_filter]
      congr 1
      funext b
      by_cases hb : b = a
      · simp [hb, ha]
      · simp [hb]
termination_by as.length
decreasing_by exact Nat.lt_succ_of_le (List.length_filter_le _ _)

/-- The summary with only the first of equal constants. -/
def withoutRepeats (s : Summary) : Summary :=
  { s with constants := s.constants.eraseDups }

/-- The first defect of a summary is the one that it has without repeated
constants. -/
theorem defect?_withoutRepeats (s : Summary) : s.withoutRepeats.defect? = s.defect? := by
  have hnames : s.withoutRepeats.names.find? (!isDeclarable ·) =
      s.names.find? (!isDeclarable ·) := by
    rw [names, names, List.find?_cons, List.find?_cons, List.find?_append, List.find?_append,
      withoutRepeats, find?_eraseDups]
  unfold defect?
  rw [hnames]
  rfl

end Summary

/-! ### Companions -/

namespace Companion

/-- What the first lines of constants declare: the identifiers and their
values. -/
def declared (count : Nat) (text : String) : List (Option (Ident × String)) :=
  (((lines text).filter isConstantLine).take count).map readConstant?

/-- A companion declares the constants of its summary, all of them and in
order. -/
theorem declared_code {s : Summary} (h : s.defect? = none) (style : Style) (width : Nat) :
    declared s.constants.length ((code style s).text width) =
      s.constants.map fun n => some (⟨isKeyword n, n⟩, n) := by
  obtain ⟨rest, hlines⟩ := exists_constantLines h style width
  have hfirst : ((lines ((code style s).text width)).filter isConstantLine).take
      s.constants.length = s.constants.map fun n => indented width 1 (constantLine n) := by
    rw [hlines]
    exact List.take_left' (List.length_map _)
  rw [declared, hfirst, List.map_map]
  refine List.map_congr_left fun n hn => ?_
  exact readConstant?_line
    (Summary.isIdentifier_names h n (Summary.mem_names_of_mem_constants hn)) width

/-- Whichever way a summary comes about, it has the constants that were given
on the way, and its first defect does not depend on whether one of them was given
twice. If there is none, a companion is written, and the constants that it
declares are pairwise distinct if and only if those that were given are. -/
theorem generate_repeats {s : Summary} {given : List String} (h : s.Arises given)
    (style : Style) :
    s.constants = given ∧ s.defect? = s.withoutRepeats.defect? ∧
      (∀ d, s.withoutRepeats.defect? = some d → generate style s = .error d) ∧
      (s.withoutRepeats.defect? = none → ∃ text, generate style s = .ok text ∧
        declared given.length text = (given.map fun n => some (⟨isKeyword n, n⟩, n)) ∧
        ((declared given.length text).Nodup ↔ given.Nodup)) := by
  have hgiven := h.constants_eq
  refine ⟨hgiven, s.defect?_withoutRepeats.symm, fun d hd => ?_, fun hnone => ?_⟩
  · rw [s.defect?_withoutRepeats] at hd
    rw [generate, hd]
  · rw [s.defect?_withoutRepeats] at hnone
    have hdeclared := declared_code hnone style style.indentWidth
    rw [hgiven] at hdeclared
    refine ⟨_, generate_ok_iff.mpr ⟨hnone, rfl⟩, hdeclared, ?_⟩
    rw [hdeclared]
    refine List.nodup_map_iff fun n m hnm => ?_
    exact (Prod.mk.inj (Option.some.inj hnm)).2

/-- A summary with the same constant twice. -/
def repeated : Summary := ⟨"crate", "T", ["A", "A"], []⟩

/-- Its companion declares the constant twice. -/
theorem repeated_declared :
    repeated.Arises ["A", "A"] ∧ ∃ text, generate {} repeated = .ok text ∧
      declared 2 text = [some (⟨false, "A"⟩, "A"), some (⟨false, "A"⟩, "A")] := by
  have harises : repeated.Arises ["A", "A"] :=
    ((Summary.Arises.empty "crate" "T").addConstants ["A"]).addConstants ["A"]
  have hdefect : repeated.withoutRepeats.defect? = none := by decide +kernel
  obtain ⟨text, hgenerate, hdeclared, -⟩ := (generate_repeats harises {}).2.2.2 hdefect
  exact ⟨harises, text, hgenerate, hdeclared⟩

/-- A variant, and the same one as a raw name. -/
def repeatedText : String := "#[companion] enum T \x7b A, r#A \x7d"

/-- It comes from the source text, from a document, and by adding the constant
two times. It has no defect and a companion, although its constants are not
pairwise distinct. -/
theorem repeatedVariant_generates :
    (∃ items d, SourceText.file? repeatedText = some items ∧
      (Scan.file "companion" "crate" items).declarations = [d] ∧
      d.summary? = .ok (some repeated)) ∧
    Summary.ofDocument? repeated.toDocument = some repeated ∧
    ((Summary.empty "crate" "T").addConstants ["A"]).addConstants ["A"] = repeated ∧
    repeated.defect? = none ∧ (∃ text, generate {} repeated = .ok text) ∧
    ¬repeated.constants.Nodup := by
  have hfound : ((SourceText.file? repeatedText).map fun items =>
      (Scan.file "companion" "crate" items).declarations.map Declaration.summary?) =
      some [.ok (some repeated)] := by
    decide +kernel
  obtain ⟨items, hfile, hfound⟩ := Option.map_eq_some_iff.mp hfound
  obtain ⟨d, hd, hsummary⟩ := List.map_eq_singleton_iff.mp hfound
  have hdefect : repeated.defect? = none := by decide +kernel
  exact ⟨⟨items, d, hfile, hd, hsummary⟩, by decide +kernel, rfl, hdefect,
    ⟨_, generate_ok_iff.mpr ⟨hdefect, rfl⟩⟩, by decide⟩

end Companion

end EnumCompanion
