import EnumCompanion.Proofs.Companion.Tidy

/-!
# `EnumCompanion.Proofs.Companion.Constants`: the constants of a companion

A companion names its constants three times over: each on a line of its own,
there once more as a quoted text, and all of them in the array of the private
table. Here these are read from the lines of the companion, by readers that
know nothing of how it is written.

* `readConstant?`: what a line says of a constant. The quoted text is read by
  the rules for literals, so that an escape counts as what it stands for.
* `readArray?`: the variants in an array.
* `generate_lists_constants`: the lines of the constants and the array of the
  table tell the names of the summary, all of them and in order.
-/

set_option autoImplicit false

namespace EnumCompanion

open EnumCompanion.Text

/-! ### Spellings -/

/-- The identifier with a spelling. -/
def Ident.ofSpelling : List Char → Ident
  | 'r' :: '#' :: name => ⟨true, String.ofList name⟩
  | name => ⟨false, String.ofList name⟩

/-- A name that is no keyword is its own spelling, and a keyword is spelt raw. -/
theorem Ident.ofSpelling_spelling {n : String} (h : Name.isIdentifier n = true) :
    ofSpelling (Name.spelling n).toList = ⟨isKeyword n, n⟩ := by
  unfold Name.spelling
  split
  next hkeyword => simp [ofSpelling, hkeyword]
  next hplain =>
    have hhash := Name.mark_not_mem h (c := '#') (by decide)
    rw [ofSpelling]
    · simp [hplain]
    · intro rest hrest
      rw [hrest] at hhash
      simp at hhash

namespace Companion

/-! ### Reading -/

/-- Whether a line is that of a constant. -/
def isConstantLine (line : String) : Bool :=
  "pub const ".toList.isPrefixOf (content line)

/-- The identifier that a line declares as a constant, and the text that it gives
to it. Nothing may stand behind the literal but a semicolon. -/
def readConstant? (line : String) : Option (Ident × String) := do
  let words ← (content line).dropPrefix? "pub const ".toList
  let body ← (words.dropWhile (· != ':')).dropPrefix? ": &'static str = \"".toList
  let (value, rest) ← readCooked .text .plain body
  if rest = [';'] then
    some (Ident.ofSpelling (words.takeWhile (· != ':')), String.ofList value)
  else none

/-- The variant of an enum that an item of an array is: a path of two names,
behind blanks. -/
def readVariant? (enumName : String) (item : List Char) : Option Ident :=
  ((item.dropWhile (· == ' ')).dropPrefix? (enumName ++ "::").toList).map Ident.ofSpelling

/-- The variants of an enum that a line with an array lists. -/
def readArray? (enumName : String) (line : String) : Option (List Ident) := do
  let words ← (content line).dropPrefix? ['[']
  let items ← words.dropSuffix? [']']
  if items = [] then some []
  else (cutAt ',' items).mapM (readVariant? enumName)

/-! ### Lines of constants -/

theorem dropPrefix?_append (front rest : List Char) :
    (front ++ rest).dropPrefix? front = some rest :=
  List.dropPrefix?_eq_some_iff.mpr ⟨front, rfl, BEq.rfl⟩

/-- What a name ends with is found behind its spelling. -/
theorem span_spelling {n : String} (h : Name.isIdentifier n = true) (rest : List Char) :
    ((Name.spelling n).toList ++ ':' :: rest).takeWhile (· != ':') = (Name.spelling n).toList ∧
      ((Name.spelling n).toList ++ ':' :: rest).dropWhile (· != ':') = ':' :: rest := by
  have hall : ∀ c ∈ (Name.spelling n).toList, (c != ':') = true := by
    intro c hc
    have hcolon := Name.mark_not_mem_spelling h (c := ':') (by decide) (by decide)
    exact bne_iff_ne.mpr fun heq => hcolon (heq ▸ hc)
  rw [List.takeWhile_append_of_pos hall, List.dropWhile_append_of_pos hall]
  simp

theorem toList_constantLine (n : String) :
    (constantLine n).toList = "pub const ".toList ++ ((Name.spelling n).toList ++
      (": &'static str = \"".toList ++ (encodeBody n.toList ++ '"' :: [';']))) := by
  simp [constantLine, encode]

theorem content_constantLine (width : Nat) (n : String) :
    content (indented width 1 (constantLine n)) = (constantLine n).toList :=
  content_indented (by simp [toList_constantLine]) width 1

/-- The line of a constant says which identifier it is, and its value. -/
theorem readConstant?_line {n : String} (h : Name.isIdentifier n = true) (width : Nat) :
    readConstant? (indented width 1 (constantLine n)) = some (⟨isKeyword n, n⟩, n) := by
  have hspan := span_spelling h
    (" &'static str = \"".toList ++ (encodeBody n.toList ++ '"' :: [';']))
  -- The name ends at the colon, which belongs to the words that are taken off behind it.
  have hwords : (": &'static str = \"".toList ++ (encodeBody n.toList ++ '"' :: [';'])) =
      ':' :: (" &'static str = \"".toList ++ (encodeBody n.toList ++ '"' :: [';'])) := rfl
  rw [readConstant?, content_constantLine, toList_constantLine, dropPrefix?_append, hwords,
    Option.bind_eq_bind, Option.bind_some, hspan.1, hspan.2, ← hwords, dropPrefix?_append,
    Option.bind_eq_bind, Option.bind_some, readCooked_encodeBody]
  simp [Ident.ofSpelling_spelling h]

theorem isConstantLine_line (width : Nat) (n : String) :
    isConstantLine (indented width 1 (constantLine n)) = true := by
  rw [isConstantLine, content_constantLine, toList_constantLine]
  exact List.isPrefixOf_iff_prefix.mpr (List.prefix_append _ _)

/-! ### The array of the table -/

/-- A blank behind each comma may as well be the beginning of the next item. -/
theorem intercalate_comma_blank (item : List Char) (items : List (List Char)) :
    [',', ' '].intercalate (item :: items) = [','].intercalate (item :: items.map (' ' :: ·)) := by
  induction items generalizing item with
  | nil => rfl
  | cons next items ih =>
    have hblank : [','].intercalate ((' ' :: next) :: items.map (' ' :: ·)) =
        ' ' :: [','].intercalate (next :: items.map (' ' :: ·)) := by
      cases items <;> simp [List.intercalate_cons_cons]
    rw [List.intercalate_cons_cons, ih, List.map_cons, List.intercalate_cons_cons, hblank]
    simp

/-- What an item of the array is: a path of two names. -/
def variantPath (enumName n : String) : List Char :=
  (enumName ++ "::").toList ++ (Name.spelling n).toList

/-- A path of two names holds neither a comma nor a blank. -/
theorem mark_not_mem_variantPath {enumName n : String} (hname : Name.isIdentifier enumName = true)
    (h : Name.isIdentifier n = true) {c : Char} (hc : c ∈ [',', ' ']) :
    c ∉ variantPath enumName n := by
  have hmark : c ∈ Name.marks ∧ c ≠ '#' ∧ c ≠ ':' := by
    simp only [List.mem_cons, List.not_mem_nil, or_false] at hc
    rcases hc with rfl | rfl <;> decide
  have hfront := Name.mark_not_mem hname hmark.1
  have hback := Name.mark_not_mem_spelling h hmark.1 hmark.2.1
  simp [variantPath, hfront, hback, hmark.2.2]

/-- An item of the array is read, behind a blank or not. -/
theorem readVariant?_item {enumName n : String} (hname : Name.isIdentifier enumName = true)
    (h : Name.isIdentifier n = true) (blanks : List Char) (hblanks : ∀ c ∈ blanks, c = ' ') :
    readVariant? enumName (blanks ++ variantPath enumName n) = some ⟨isKeyword n, n⟩ := by
  have hnot : ' ' ∉ variantPath enumName n := mark_not_mem_variantPath hname h (by decide)
  have hdrop : (variantPath enumName n).dropWhile (· == ' ') = variantPath enumName n := by
    cases hpath : variantPath enumName n with
    | nil => rfl
    | cons c rest =>
      rw [hpath, List.mem_cons, not_or] at hnot
      exact List.dropWhile_cons_of_neg (by simpa using Ne.symm hnot.1)
  rw [readVariant?, List.dropWhile_append_of_pos (by simpa using hblanks), hdrop, variantPath,
    dropPrefix?_append, Option.map_some, Ident.ofSpelling_spelling h]

theorem mapM_map_eq_some {α β γ : Type} {read : β → Option γ} {write : α → β} {value : α → γ}
    {as : List α} (h : ∀ a ∈ as, read (write a) = some (value a)) :
    (as.map write).mapM read = some (as.map value) := by
  induction as with
  | nil => rfl
  | cons a as ih =>
    obtain ⟨ha, has⟩ := List.forall_mem_cons.mp h
    rw [List.map_cons, List.mapM_cons, ha, ih has]
    rfl

theorem toList_variants (enumName : String) (names : List String) :
    (Expr.variants enumName names).text.toList =
      ['['] ++ ([',', ' '].intercalate (names.map (variantPath enumName)) ++ [']']) := by
  have hpath : ∀ n, (enumName ++ "::" ++ Name.spelling n).toList = variantPath enumName n :=
    fun n => String.toList_append
  have hopen : "[".toList = ['['] := rfl
  have hmark : ", ".toList = [',', ' '] := rfl
  have hclose : "]".toList = [']'] := rfl
  show ("[" ++ ", ".intercalate (names.map fun n => enumName ++ "::" ++ Name.spelling n) ++
    "]").toList = _
  rw [String.toList_append, String.toList_append, String.toList_intercalate, List.map_map,
    List.append_assoc, hopen, hmark, hclose]
  simp only [Function.comp_def, hpath]

/-- The line of the array lists the variants. -/
theorem readArray?_line {enumName : String} {names : List String}
    (hname : Name.isIdentifier enumName = true) (h : ∀ n ∈ names, Name.isIdentifier n = true)
    (width level : Nat) :
    readArray? enumName (indented width level (Expr.variants enumName names).text) =
      some (names.map fun n => ⟨isKeyword n, n⟩) := by
  have hitems : ∀ items : List Char, (items ++ [']']).dropSuffix? [']'] = some items :=
    fun items => List.dropSuffix?_eq_some_iff.mpr ⟨[']'], rfl, BEq.rfl⟩
  have hcontent : content (indented width level (Expr.variants enumName names).text) =
      ['['] ++ ([',', ' '].intercalate (names.map (variantPath enumName)) ++ [']']) := by
    rw [content_indented (by simp), toList_variants]
  rw [readArray?, hcontent, dropPrefix?_append, Option.bind_eq_bind, Option.bind_some, hitems,
    Option.bind_some]
  cases names with
  | nil => rfl
  | cons n more =>
    obtain ⟨hn, hmore⟩ := List.forall_mem_cons.mp h
    -- Cut at its commas, the array has a blank in front of every item but the first.
    let later := fun m => ' ' :: variantPath enumName m
    have hcut : cutAt ',' ([',', ' '].intercalate ((n :: more).map (variantPath enumName))) =
        variantPath enumName n :: more.map later := by
      rw [List.map_cons, intercalate_comma_blank, List.map_map, cutAt_intercalate]
      · rfl
      · exact List.cons_ne_nil _ _
      · have hnot : ∀ m ∈ n :: more, ',' ∉ variantPath enumName m := fun m hm =>
          mark_not_mem_variantPath hname (h m hm) (by decide)
        simpa using hnot
    have hne : [',', ' '].intercalate ((n :: more).map (variantPath enumName)) ≠ [] := by
      intro hnil
      rw [hnil] at hcut
      have hlead := (List.cons.inj hcut).1
      simp [variantPath] at hlead
    have hfirst := readVariant?_item hname hn [] (List.forall_mem_nil _)
    have hlater : ∀ m ∈ more, readVariant? enumName (later m) = some ⟨isKeyword m, m⟩ :=
      fun m hm => readVariant?_item hname (hmore m hm) [' '] (by simp)
    rw [List.nil_append] at hfirst
    rw [if_neg hne, hcut, List.mapM_cons, hfirst, mapM_map_eq_some hlater]
    rfl

/-! ### Companions -/

/-- What the lines of a companion say of the constants of a summary. -/
structure ListsConstants (s : Summary) (text : String) : Prop where
  /-- Among the lines of constants, each declares the constant at its place, raw
  if it is a keyword, and gives it its name. -/
  constants : ∀ (i : Nat) (name : String), s.constants[i]? = some name →
    ∃ line, ((lines text).filter isConstantLine)[i]? = some line ∧
      readConstant? line = some (⟨isKeyword name, name⟩, name)
  /-- The companion ends with the private table, an array of as many variants as
  there are constants, and of the same names in the same order. -/
  table : ∃ front header array closer, lines text = front ++ [header, array, closer, "\x7d"] ∧
    content header = ("fn " ++ tableName s ++ "() -> [" ++ s.name ++ "; " ++
      Nat.repr s.constants.length ++ "] \x7b").toList ∧
    readArray? s.name array = some (s.constants.map fun n => ⟨isKeyword n, n⟩)

/-- The lines of the private table. -/
theorem lines_table (width : Nat) (s : Summary) :
    (table s).lines width =
      [indented width 1 ("fn " ++ tableName s ++ "() -> [" ++ s.name ++ "; " ++
          Nat.repr s.constants.length ++ "] \x7b"),
        indented width 2 (Expr.variants s.name s.constants).text, indented width 1 "\x7d"] := by
  have hheader : (table s).header ++ " \x7b" =
      "fn " ++ tableName s ++ "() -> [" ++ s.name ++ "; " ++
        Nat.repr s.constants.length ++ "] \x7b" := by
    rw [← String.toList_inj]
    simp [table, Function.header]
  rw [Function.lines, hheader]
  rfl

/-- The table is the last group of members. -/
theorem exists_groups_table (style : Style) (s : Summary) (width : Nat) :
    ∃ gs, (code style s).groups width = gs ++ [(table s).lines width] := by
  have hfunctions : (code style s).functions =
      (s.parameters.map (lookup style s) ++ [associate s, enumList s]) ++ [table s] := by
    simp [code]
  rw [Code.groups, hfunctions, List.map_append, ← List.append_assoc]
  exact ⟨_, rfl⟩

/-- No line in front of the members is that of a constant. -/
theorem not_isConstantLine_front (c : Code) : ∀ l ∈ c.front, isConstantLine l = false := by
  simp [Code.front, Code.heads, isConstantLine, content, List.isPrefixOf]

section

variable {s : Summary} (h : s.defect? = none) (style : Style) (width : Nat)

include h

/-! A type may hold line feeds, and then the lines in between are not those of the
code. The constants stand in front of all types, and the table stands behind them. -/

/-- The first lines of constants are those of the constants. -/
theorem exists_constantLines : ∃ rest,
    (lines ((code style s).text width)).filter isConstantLine =
      s.constants.map (fun n => indented width 1 (constantLine n)) ++ rest := by
  rcases eq_or_ne s.constants [] with hnil | hne
  · exact ⟨_, by rw [hnil]; rfl⟩
  · let constants := s.constants.map fun n => indented width 1 (constantLine n)
    have hgroups : (code style s).groups width =
        constants :: (code style s).functions.map (Function.lines width) := by
      rw [Code.groups, Code.constantGroups, code, if_neg hne]
      rfl
    have hline : ∀ l ∈ (code style s).front ++ constants, '\n' ∉ l.toList := by
      refine List.forall_mem_append.mpr
        ⟨lineFeed_not_mem_intercalate_blank (isSolid_heads h style),
          List.forall_mem_map.mpr fun n hn => ?_⟩
      exact lineFeed_not_mem_indented (lineFeed_not_mem_constantLine
        (lineFeed_not_mem_names h n (Summary.mem_names_of_mem_constants hn))) width 1
    have hfront : (code style s).front.filter isConstantLine = [] :=
      List.filter_eq_nil_iff.mpr fun l hl => by simp [not_isConstantLine_front _ l hl]
    have hconstants : constants.filter isConstantLine = constants :=
      List.filter_eq_self.mpr (List.forall_mem_map.mpr fun n _ => isConstantLine_line width n)
    rw [Code.text_eq_unlines, Code.lines, hgroups, intercalate_blank_cons, List.append_assoc,
      ← List.append_assoc, unlines_append, lines_unlines_append hline, List.filter_append,
      List.filter_append, hfront, hconstants]
    exact ⟨_, rfl⟩

/-- The last lines are those of the table, and a brace. -/
theorem exists_lines_table : ∃ front,
    lines ((code style s).text width) = front ++ ((table s).lines width ++ ["\x7d"]) := by
  obtain ⟨gs, hgroups⟩ := exists_groups_table style s width
  have hsolid := ((isTidy_table h).isGroup width).solid
  have hline : ∀ l ∈ (table s).lines width ++ ["\x7d"], '\n' ∉ l.toList :=
    List.forall_mem_append.mpr ⟨fun l hl => (hsolid l hl).oneLine, by decide⟩
  have hlines : (code style s).lines width =
      ((code style s).front ++ gs.flatMap (· ++ [""])) ++ ((table s).lines width ++ ["\x7d"]) := by
    rw [Code.lines, hgroups, intercalate_blank_mid]
    simp
  rw [Code.text_eq_unlines, hlines, unlines_append, lines_append_of_unlines, lines_unlines hline]
  exact ⟨_, rfl⟩

end

/-- The lines of a companion list the constants of its summary. -/
theorem generate_lists_constants {style : Style} {s : Summary} {text : String}
    (h : generate style s = .ok text) : ListsConstants s text := by
  obtain ⟨hdefect, rfl⟩ := generate_ok_iff.mp h
  have hnames := Summary.isIdentifier_names hdefect
  have hconstants : ∀ n ∈ s.constants, Name.isIdentifier n = true := fun n hn =>
    hnames n (Summary.mem_names_of_mem_constants hn)
  constructor
  · intro i name hi
    obtain ⟨rest, hfilter⟩ := exists_constantLines hdefect style style.indentWidth
    have hname := hconstants name (List.mem_of_getElem? hi)
    refine ⟨_, ?_, readConstant?_line hname style.indentWidth⟩
    have hlength := (List.getElem?_eq_some_iff.mp hi).1
    rw [hfilter, List.getElem?_append_left (by simpa using hlength), List.getElem?_map, hi]
    rfl
  · obtain ⟨front, hlines⟩ := exists_lines_table hdefect style style.indentWidth
    rw [hlines, lines_table]
    exact ⟨front, _, _, _, rfl, content_indented (by simp) style.indentWidth 1,
      readArray?_line (hnames _ s.name_mem_names) hconstants style.indentWidth 2⟩

/-- A keyword, and a name with a mark that is escaped where it is quoted. -/
theorem listsConstants_season :
    ∃ text, generate {} ⟨"site", "Season", ["type", "a\u0345"], []⟩ = .ok text ∧
      ListsConstants ⟨"site", "Season", ["type", "a\u0345"], []⟩ text :=
  have h : (⟨"site", "Season", ["type", "a\u0345"], []⟩ : Summary).defect? = none := by
    decide +kernel
  have hok := generate_ok_iff.mpr ⟨h, rfl⟩
  ⟨_, hok, generate_lists_constants hok⟩

end Companion

end EnumCompanion
