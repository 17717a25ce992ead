import EnumCompanion.Proofs.Companion.Meaning

/-!
# `EnumCompanion.Proofs.Companion.Members`: which members meet

The members of a companion share one block, where no identifier can be
declared twice. What counts is the identifier that a spelling stands for:
`r#type` and `type` are one, and so are a letter with a mark and the same
two in one character.

* `Code.spellings`: the names of the members as the text declares them,
  in its order.
* `map_ofSpelling_others`: the identifiers declared for a summary. Those of
  the variants and of the parameters come from the summary, the other three
  do not depend on it but for the underscores of the table.
* `tableName_not_mem_memberNames`: the table has a name of its own.
* `nodup_spellings_iff`: the summaries for which no two members have one
  name. That the variants are different texts is not enough for it
  (`spelledTwice_not_nodup`).
-/

set_option autoImplicit false

namespace EnumCompanion.Companion

open EnumCompanion.Text (canonical capitalize)

/-! ### The names that are declared -/

/-- The names of the members, as the text spells them where it declares
them. -/
def Code.spellings (c : Code) : List String :=
  c.constants.map Name.spelling ++ c.functions.map Function.name

/-- The identifiers of the members for a summary, but for that of the table. -/
def memberNames (s : Summary) : List String :=
  s.constants.map canonical ++ s.parameters.map (fun p => Name.ofSpelling (Name.lookup p.name)) ++
    ["associate", "enumList"]

/-- The table is declared last. -/
theorem spellings_code (style : Style) (s : Summary) :
    (code style s).spellings =
      s.constants.map Name.spelling ++ s.parameters.map (fun p => Name.lookup p.name) ++
        ["associate", "enumList"] ++ [tableName s] := by
  simp [Code.spellings, code, lookup, associate, enumList, table, Function.comp_def]

/-- `associate` and `enumList` are read as they are written. -/
theorem map_ofSpelling_fixed :
    ["associate", "enumList"].map Name.ofSpelling = ["associate", "enumList"] := by
  decide +kernel

section

variable {s : Summary} (hnames : ∀ n ∈ s.names, Summary.isDeclarable n = true)

include hnames

/-- A variant is declared as its own identifier, and a function as the one that
is written. -/
theorem map_ofSpelling_others :
    (s.constants.map Name.spelling ++ s.parameters.map (fun p => Name.lookup p.name) ++
        ["associate", "enumList"]).map Name.ofSpelling = memberNames s := by
  have hconstants : (s.constants.map Name.spelling).map Name.ofSpelling =
      s.constants.map canonical := by
    rw [List.map_map]
    refine List.map_congr_left fun v hv => ?_
    exact identifier_eq (hnames v (Summary.mem_names_of_mem_constants hv))
  rw [List.map_append, List.map_append, hconstants, List.map_map, map_ofSpelling_fixed,
    memberNames]
  rfl

end

/-- The table has a name of its own, whatever the variants and parameters are
called. -/
theorem tableName_not_mem_memberNames (s : Summary) : tableName s ∉ memberNames s := by
  intro hmem
  simp only [memberNames, List.mem_append, List.mem_map, List.mem_cons, List.not_mem_nil,
    or_false] at hmem
  rcases hmem with (⟨v, hv, hconstant⟩ | ⟨p, -, hlookup⟩) | hassociate | henumList
  · rw [Text.canonical_eq_iff (isSteady_tableName s)] at hconstant
    exact Name.fresh_not_mem _ _ (hconstant ▸ hv)
  -- The name of the table begins with a `v`, and those of the other functions do not.
  · exact ofSpelling_lookup_ne_tableName s p.name hlookup
  · exact ne_tableName (c := 'a') rfl (by decide) s hassociate.symm
  · exact ne_tableName (c := 'e') rfl (by decide) s henumList.symm

/-- Lookups are told apart by the capital forms of their parameters. -/
theorem nodup_lookups_iff (ps : List Parameter) :
    (ps.map fun p => Name.ofSpelling (Name.lookup p.name)).Nodup ↔
      (ps.map fun p => canonical (capitalize p.name)).Nodup := by
  simp only [List.Nodup, List.pairwise_map, ne_eq, Name.ofSpelling_lookup_eq_iff]

/-- A variant is not called like one of the two other functions if it is a
different word. -/
theorem canonical_not_mem_fixed_iff (v : String) :
    canonical v ∉ ["associate", "enumList"] ↔ v ≠ "associate" ∧ v ≠ "enumList" := by
  have hassociate : canonical v = "associate" ↔ v = "associate" :=
    Text.canonical_eq_iff (by decide)
  have henumList : canonical v = "enumList" ↔ v = "enumList" := Text.canonical_eq_iff (by decide)
  simp [hassociate, henumList]

/-- A lookup begins with an `f`, so it is neither of the two other functions. -/
theorem ofSpelling_lookup_not_mem_fixed (p : String) :
    Name.ofSpelling (Name.lookup p) ∉ ["associate", "enumList"] := by
  intro hmem
  have hhead : ∀ n ∈ ["associate", "enumList"], n.toList.head? ≠ some 'f' := by decide
  rw [Name.ofSpelling_lookup] at hmem
  exact hhead _ hmem (by simp)

/-- The members but for the table are all different if and only if the variants
are, and the capital forms of the parameters, and no variant is called like
one of the functions. -/
theorem nodup_memberNames_iff (s : Summary) :
    (memberNames s).Nodup ↔
      (s.constants.map canonical).Nodup ∧
        (s.parameters.map fun p => canonical (capitalize p.name)).Nodup ∧
        ∀ v ∈ s.constants, v ≠ "associate" ∧ v ≠ "enumList" ∧
          ∀ p ∈ s.parameters, canonical v ≠ canonical ("from" ++ capitalize p.name) := by
  have hfixed : ["associate", "enumList"].Nodup := by decide
  have hfrom : ∀ p : Parameter, canonical ("from" ++ capitalize p.name) =
      Name.ofSpelling (Name.lookup p.name) := by
    intro p
    rw [Name.ofSpelling_lookup, Text.canonical_append_left (by decide)]
  simp only [memberNames, List.nodup_append, nodup_lookups_iff, hfixed, true_and, hfrom]
  constructor
  · rintro ⟨⟨hconstants, hparameters, hlookup⟩, hfunctions⟩
    refine ⟨hconstants, hparameters, fun v hv => ?_⟩
    have hv' := List.mem_map_of_mem (f := canonical) hv
    obtain ⟨hassociate, henumList⟩ := (canonical_not_mem_fixed_iff v).mp fun hmem =>
      hfunctions _ (List.mem_append_left _ hv') _ hmem rfl
    exact ⟨hassociate, henumList, fun p hp => hlookup _ hv' _ (List.mem_map.mpr ⟨p, hp, rfl⟩)⟩
  · rintro ⟨hconstants, hparameters, hothers⟩
    refine ⟨⟨hconstants, hparameters, fun n hn f hf => ?_⟩, fun n hn f hf => ?_⟩
    · obtain ⟨v, hv, rfl⟩ := List.mem_map.mp hn
      obtain ⟨p, hp, rfl⟩ := List.mem_map.mp hf
      exact (hothers v hv).2.2 p hp
    · rintro rfl
      rcases List.mem_append.mp hn with hconstant | hlookup
      · obtain ⟨v, hv, rfl⟩ := List.mem_map.mp hconstant
        have hnot := (canonical_not_mem_fixed_iff v).mpr ⟨(hothers v hv).1, (hothers v hv).2.1⟩
        exact hnot hf
      · obtain ⟨p, -, rfl⟩ := List.mem_map.mp hlookup
        exact ofSpelling_lookup_not_mem_fixed p.name hf

/-- A summary without a defect has a companion, and no two of its members have
one name if and only if no two variants do, no two parameters have one capital form,
and no variant is called `associate`, `enumList` or like the lookup by a
parameter, all compared by their canonical forms as the language does. The
table, which is declared last, is never one of the two. -/
theorem nodup_spellings_iff (style : Style) {s : Summary} (h : s.defect? = none) :
    generate style s = .ok ((code style s).text style.indentWidth) ∧
    (((code style s).spellings.map Name.ofSpelling).Nodup ↔
      (s.constants.map canonical).Nodup ∧
        (s.parameters.map fun p => canonical (capitalize p.name)).Nodup ∧
        ∀ v ∈ s.constants, v ≠ "associate" ∧ v ≠ "enumList" ∧
          ∀ p ∈ s.parameters, canonical v ≠ canonical ("from" ++ capitalize p.name)) ∧
      ∃ others, (code style s).spellings = others ++ [tableName s] ∧
        Name.ofSpelling (tableName s) ∉ others.map Name.ofSpelling := by
  obtain ⟨-, -, hnames, -⟩ := s.defect?_eq_none_iff.mp h
  have hothers := map_ofSpelling_others hnames
  have htable := ofSpelling_tableName s
  refine ⟨generate_ok_iff.mpr ⟨h, rfl⟩, ?_, _, spellings_code style s, ?_⟩
  · rw [spellings_code, List.map_append, hothers, List.map_singleton, htable, List.nodup_append,
      ← nodup_memberNames_iff]
    refine ⟨fun hall => hall.1, fun hall => ⟨hall, List.nodup_singleton _, ?_⟩⟩
    intro n hn m hm hnm
    rw [hnm, List.mem_singleton.mp hm] at hn
    exact tableName_not_mem_memberNames s hn
  · rw [hothers, htable]
    exact tableName_not_mem_memberNames s

/-- An enum with variants called like the table, and with parameters that are
keywords. -/
def crowded : Summary where
  scope := "crate"
  name := "Shade"
  constants := ["values", "type", "values_", "fromin", "from"]
  parameters := [⟨"in", "u8"⟩, ⟨"ß", "u8"⟩]

/-- No two of its members have one name. -/
theorem crowded_nodup :
    crowded.defect? = none ∧ ((code {} crowded).spellings.map Name.ofSpelling).Nodup ∧
      tableName crowded = "values__" := by
  have hdefect : crowded.defect? = none := by decide +kernel
  exact ⟨hdefect, (nodup_spellings_iff {} hdefect).2.1.mpr (by decide +kernel), by decide +kernel⟩

/-- An enum with a variant of one character, and one with the two that it falls
into. -/
def spelledTwice : Summary where
  scope := "crate"
  name := "Syllable"
  constants := ["\uAC00", "\u1100\u1161"]
  parameters := []

/-- Its variants are different texts and one identifier, which two members are
declared as. -/
theorem spelledTwice_not_nodup :
    spelledTwice.defect? = none ∧ spelledTwice.constants.Nodup ∧
      (spelledTwice.parameters.map fun p => capitalize p.name).Nodup ∧
      (∀ v ∈ spelledTwice.constants, v ≠ "associate" ∧ v ≠ "enumList" ∧
        ∀ p ∈ spelledTwice.parameters, v ≠ "from" ++ capitalize p.name) ∧
      ¬ ((code {} spelledTwice).spellings.map Name.ofSpelling).Nodup := by
  decide +kernel

/-- The capital form of one letter may be two, so that two parameters with
different names give one lookup. -/
example : Name.lookup "ß" = Name.lookup "sS" := by decide +kernel

end EnumCompanion.Companion
