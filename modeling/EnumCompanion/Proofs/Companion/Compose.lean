import EnumCompanion.Proofs.Companion.Layout
import EnumCompanion.Proofs.Summary.Defect

/-!
# `EnumCompanion.Proofs.Companion.Compose`: lookups compose

The text of a companion is an opening, a block for each parameter, and a
closing. A block ends with the blank line behind its lookup: `associate`
always follows the lookups, so this line is always due, also behind the
first lookup of an enum without variants, in front of which there is none.

* `functionLines_append`: functions with more functions behind them.
* `opening`, `lookupBlock` and `closing`: the three kinds of pieces, each
  made without the parameters that it does not show.
* `generate_composes`: the text in pieces, the text with one more
  parameter, and the text with the parameters in another order.
-/

set_option autoImplicit false

namespace EnumCompanion.Companion

/-! ### Functions in a row -/

/-- Functions that others follow: each is a block with a blank line behind it,
and what follows begins as at the start of the block. -/
theorem functionLines_append (width : Nat) (atBlockStart : Bool) (fs : List Function) (g : Function)
    (gs : List Function) :
    functionLines width atBlockStart (fs ++ g :: gs) =
      (if atBlockStart then "" else "\n") ++ String.join (fs.map fun f => f.block width ++ "\n") ++
        functionLines width true (g :: gs) := by
  induction fs generalizing atBlockStart with
  | nil =>
    show functionLines width atBlockStart (g :: gs) = _
    simp [functionLines, String.append_assoc]
  | cons f rest ih =>
    -- Behind a function the block has begun, whatever stands in front of it.
    have hrest := ih false
    simp only [Bool.false_eq_true, if_false] at hrest
    show (if atBlockStart then "" else "\n") ++ f.block width ++
      functionLines width false (rest ++ g :: gs) = _
    rw [hrest]
    simp [String.append_assoc]

/-! ### The pieces of a companion -/

/-- The text in front of the lookups: the preamble and the constants, and if
there are any, a blank line. -/
def opening (style : Style) (scope name : String) (constants : List String) : String :=
  (code style ⟨scope, name, constants, []⟩).preamble ++
    constantLines style.indentWidth constants ++ (if constants.isEmpty then "" else "\n")

/-- The text of the lookup by a parameter, with the blank line behind it. -/
def lookupBlock (style : Style) (name : String) (constants : List String) (p : Parameter) :
    String :=
  (lookup style ⟨"", name, constants, []⟩ p).block style.indentWidth ++ "\n"

/-- The text behind the lookups: `associate`, `enumList` and the table, a blank
line between two of them, and the brace that ends the block. -/
def closing (style : Style) (name : String) (constants : List String) : String :=
  let s : Summary := ⟨"", name, constants, []⟩
  functionLines style.indentWidth true [associate s, enumList s, table s] ++ "\x7d\n"

/-- The text of the code of a companion, in pieces. -/
theorem code_text_pieces (style : Style) (s : Summary) :
    (code style s).text style.indentWidth =
      opening style s.scope s.name s.constants ++
        String.join (s.parameters.map (lookupBlock style s.name s.constants)) ++
        closing style s.name s.constants := by
  have hfunctions := functionLines_append style.indentWidth s.constants.isEmpty
    (s.parameters.map (lookup style s)) (associate s) [enumList s, table s]
  have hblocks : (s.parameters.map (lookup style s)).map
      (fun f => f.block style.indentWidth ++ "\n") =
      s.parameters.map (lookupBlock style s.name s.constants) := by
    rw [List.map_map]
    rfl
  rw [hblocks] at hfunctions
  have hpreamble : (code style s).preamble =
      (code style ⟨s.scope, s.name, s.constants, []⟩).preamble := rfl
  have hclosing : closing style s.name s.constants =
      functionLines style.indentWidth true [associate s, enumList s, table s] ++ "\x7d\n" := rfl
  rw [Code.text_eq]
  show (code style s).preamble ++ (constantLines style.indentWidth s.constants ++
    (functionLines style.indentWidth s.constants.isEmpty
      (s.parameters.map (lookup style s) ++ [associate s, enumList s, table s]) ++ "\x7d\n")) = _
  rw [hfunctions, hpreamble, hclosing]
  simp [opening, String.append_assoc]

/-- Behind the lookups stands `associate`. -/
theorem closing_begins (style : Style) (s : Summary) :
    ∃ rest, closing style s.name s.constants =
      (associate s).block style.indentWidth ++ rest := by
  refine ⟨functionLines style.indentWidth false [enumList s, table s] ++ "\x7d\n", ?_⟩
  show "" ++ (associate s).block style.indentWidth ++
    functionLines style.indentWidth false [enumList s, table s] ++ "\x7d\n" = _
  rw [String.empty_append, String.append_assoc]

/-- Without variants, the lookups stand behind the brace that opens the `impl`
block. -/
theorem opening_ends (style : Style) (scope name : String) :
    ∃ before, opening style scope name [] =
      before ++ "impl " ++ Name.companion name ++ " \x7b\n" := by
  refine ⟨"// namespace " ++ scope ++ "\n\n#[allow(non_camel_case_types)]\n" ++ "pub struct " ++
    Name.companion name ++
    ";\n\n#[allow(non_snake_case, non_upper_case_globals, dead_code, private_interfaces)]\n", ?_⟩
  rw [← String.toList_inj]
  simp [opening, Code.preamble, code, Summary.companionName, constantLines]

/-! ### Valid summaries -/

/-- A summary with its parameters in another order has no defect either. -/
theorem defect?_of_perm {s : Summary} {qs : List Parameter} (hperm : qs.Perm s.parameters)
    (h : s.defect? = none) : Summary.defect? { s with parameters := qs } = none := by
  obtain ⟨hscope, hsegments, hnames, htypes⟩ := s.defect?_eq_none_iff.mp h
  refine (Summary.defect?_eq_none_iff _).mpr ⟨hscope, hsegments, ?_, ?_⟩
  · intro n hn
    have hsame : (Summary.names { s with parameters := qs }).Perm s.names :=
      ((hperm.map Parameter.name).append_left s.constants).cons s.name
    exact hnames n (hsame.mem_iff.mp hn)
  · intro p hp
    exact htypes p (hperm.mem_iff.mp hp)

/-! ### Lookups compose -/

/-- A companion is its opening, the blocks of its parameters in order, and its
closing. One more parameter puts its block in front of the closing, which
begins with `associate`; parameters in another order put the blocks in
that order. Without variants, the first block stands behind the brace that
opens the `impl` block. -/
theorem generate_composes (style : Style) {s : Summary} (h : s.defect? = none) :
    let front := opening style s.scope s.name s.constants
    let block := lookupBlock style s.name s.constants
    let back := closing style s.name s.constants
    generate style s = .ok (front ++ String.join (s.parameters.map block) ++ back) ∧
      (∀ p, (s.addParameter p).defect? = none →
        generate style (s.addParameter p) =
          .ok (front ++ String.join (s.parameters.map block) ++ block p ++ back)) ∧
      (∀ qs, qs.Perm s.parameters →
        generate style { s with parameters := qs } =
          .ok (front ++ String.join (qs.map block) ++ back)) ∧
      (∃ rest, back = (associate s).block style.indentWidth ++ rest) ∧
      (s.constants = [] → ∃ before, front = before ++ "impl " ++ s.companionName ++ " \x7b\n") := by
  intro front block back
  have hpieces : ∀ qs, Summary.defect? { s with parameters := qs } = none →
      generate style { s with parameters := qs } =
        .ok (front ++ String.join (qs.map block) ++ back) := by
    intro qs hqs
    exact generate_ok_iff.mpr ⟨hqs, (code_text_pieces style { s with parameters := qs }).symm⟩
  refine ⟨hpieces s.parameters h, ?_, ?_, ?_, ?_⟩
  · intro p hp
    have hmore := hpieces (s.parameters ++ [p]) hp
    rw [List.map_append, String.join_append, List.map_singleton, String.join_cons, String.join_nil,
      String.append_empty, ← String.append_assoc] at hmore
    exact hmore
  · intro qs hperm
    exact hpieces qs (defect?_of_perm hperm h)
  · exact closing_begins style s
  · intro hconstants
    show ∃ before, opening style s.scope s.name s.constants = _
    rw [hconstants]
    exact opening_ends style s.scope s.name

/-- An enum without variants and with two parameters. -/
def untold : Summary :=
  ⟨"crate", "Untold", [], [⟨"code", "u8"⟩, ⟨"label", "&'static str"⟩]⟩

/-- Its companion opens with the lookup by the first parameter, and with the
parameters the other way round with the other lookup. -/
theorem untold_composes :
    untold.defect? = none ∧
      generate ⟨"::rt", 2⟩ untold =
        .ok (opening ⟨"::rt", 2⟩ "crate" "Untold" [] ++
          String.join [lookupBlock ⟨"::rt", 2⟩ "Untold" [] ⟨"code", "u8"⟩,
            lookupBlock ⟨"::rt", 2⟩ "Untold" [] ⟨"label", "&'static str"⟩] ++
          closing ⟨"::rt", 2⟩ "Untold" []) ∧
      generate ⟨"::rt", 2⟩ { untold with parameters := untold.parameters.reverse } =
        .ok (opening ⟨"::rt", 2⟩ "crate" "Untold" [] ++
          String.join [lookupBlock ⟨"::rt", 2⟩ "Untold" [] ⟨"label", "&'static str"⟩,
            lookupBlock ⟨"::rt", 2⟩ "Untold" [] ⟨"code", "u8"⟩] ++
          closing ⟨"::rt", 2⟩ "Untold" []) := by
  have hvalid : untold.defect? = none := by rfl
  obtain ⟨htext, -, hreordered, -, -⟩ := generate_composes ⟨"::rt", 2⟩ hvalid
  exact ⟨hvalid, htext, hreordered untold.parameters.reverse untold.parameters.reverse_perm⟩

end EnumCompanion.Companion
