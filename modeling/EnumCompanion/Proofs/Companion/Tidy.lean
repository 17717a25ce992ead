import EnumCompanion.Proofs.Companion.Lines

/-!
# `EnumCompanion.Proofs.Companion.Tidy`: functions written on whole lines

A statement is tidy if no text on it holds a line feed, and a value on a line
of its own looks neither like a brace nor like a part of a chain. What it is
written as then stands right at every level, and has no blank line in it.

* `Stmt.nests` and `Stmt.isSolid_lines`: so for every statement, in a mutual
  induction with its blocks.
* `Function.IsTidy.nests` and `Function.IsTidy.isGroup`: so for a function.
* `isTidy_functions`: the functions of a companion are tidy, if the types of
  its parameters and the path to the runtime are on one line each.
* `isSolid_heads` and `isGroup_groups`: so all that a companion is put together
  from are whole lines.
-/

set_option autoImplicit false

namespace EnumCompanion

open EnumCompanion.Text

namespace Companion

/-! ### Statements -/

mutual

/-- A statement that is written on whole lines. -/
def Stmt.IsTidy : Stmt → Prop
  | .forEach x items body => '\n' ∉ x.toList ∧ '\n' ∉ items.text.toList ∧ AreTidy body
  | .ifThen condition body => '\n' ∉ condition.text.toList ∧ AreTidy body
  | .giveBack value => '\n' ∉ value.text.toList
  | .bind x value => '\n' ∉ x.toList ∧ '\n' ∉ value.text.toList
  | .result value => '\n' ∉ value.text.toList ∧ IsPlainLine value.text
  | .collect items x body =>
    '\n' ∉ items.text.toList ∧ IsPlainLine items.text ∧ '\n' ∉ x.toList ∧ AreTidy body

/-- Statements that are. -/
def AreTidy : List Stmt → Prop
  | [] => True
  | s :: rest => s.IsTidy ∧ AreTidy rest

end

mutual

/-- The number of chains in a statement. -/
def Stmt.chains : Stmt → Nat
  | .forEach _ _ body | .ifThen _ body => chainsOf body
  | .giveBack _ | .bind _ _ | .result _ => 0
  | .collect _ _ body => chainsOf body + 1

/-- The number of chains in statements. -/
def chainsOf : List Stmt → Nat
  | [] => 0
  | s :: rest => s.chains + chainsOf rest

end

/-- A loop, a test and a closure have a header each. -/
theorem isHeader_for (x : String) (items : Expr) :
    IsHeader ("for " ++ Name.spelling x ++ " in " ++ items.text) :=
  isHeader_of_head? (c := 'f') (by simp) (by decide)

theorem isHeader_if (condition : Expr) : IsHeader ("if " ++ condition.text) :=
  isHeader_of_head? (c := 'i') (by simp) (by decide)

theorem isHeader_map (x : String) : IsHeader (".map(|" ++ Name.spelling x ++ "|") :=
  isHeader_of_head? (c := '.') (by simp) (by decide)

/-- What gives a value back or binds it is a plain line. -/
theorem isPlainLine_return (value : Expr) : IsPlainLine ("return " ++ value.text ++ ";") :=
  isPlainLine_of_ends (c := 'r') (d := ';') (by simp) rfl (by decide)

theorem isPlainLine_let (x : String) (value : Expr) :
    IsPlainLine ("let " ++ Name.spelling x ++ " = " ++ value.text ++ ";") :=
  isPlainLine_of_ends (c := 'l') (d := ';') (by simp) rfl (by decide)

mutual

/-- The lines of a tidy statement stand right at every level. -/
theorem Stmt.nests (width : Nat) : ∀ {s : Stmt}, s.IsTidy → ∀ level : Nat,
    Nests width level s.chains (s.lines width level)
  | .forEach x items body, ⟨_, _, hbody⟩, level =>
    (nests_linesOf width hbody (level + 1)).block (isHeader_for x items) (by decide)
  | .ifThen condition body, ⟨_, hbody⟩, level =>
    (nests_linesOf width hbody (level + 1)).block (isHeader_if condition) (by decide)
  | .giveBack value, _, level => nests_line (isPlainLine_return value)
  | .bind x value, _, level => nests_line (isPlainLine_let x value)
  | .result value, ⟨_, hvalue⟩, level => nests_line hvalue
  | .collect items x body, ⟨_, hitems, _, hbody⟩, level => by
    -- The chain holds a block, which holds the body; its first value stands in front of it.
    have hcloser : "\x7d)" ∈ closers := by decide
    have hmap := (nests_linesOf width hbody (level + 2)).block (isHeader_map x) hcloser
    have hline : Nests width level 0 [indented width level items.text] := nests_line hitems
    have hchain := hline.append hmap.chain
    simpa [Stmt.lines, Stmt.chains, Nat.add_comm, String.append_assoc] using hchain

/-- So do the lines of tidy statements. -/
theorem nests_linesOf (width : Nat) : ∀ {ss : List Stmt}, AreTidy ss → ∀ level : Nat,
    Nests width level (chainsOf ss) (linesOf width level ss)
  | [], _, _ => nests_nil
  | _ :: _, ⟨hs, hrest⟩, level =>
    (Stmt.nests width hs level).append (nests_linesOf width hrest level)

end

/-! ### Whole lines -/

/-- A block is written on whole lines if its body is. -/
theorem isSolid_block {header closer : String} (h : IsHeader header)
    (hline : '\n' ∉ header.toList) (hcloser : closer ∈ closers) (width level : Nat)
    {ls : List String} (hls : ∀ l ∈ ls, IsSolid l) :
    ∀ l ∈ indented width level (header ++ " \x7b") :: (ls ++ [indented width level closer]),
      IsSolid l := by
  rw [List.forall_mem_cons, List.forall_mem_append, List.forall_mem_singleton]
  exact ⟨(h.append _).isSolid (by simp [hline]) width level, hls,
    isSolid_closer hcloser width level⟩

mutual

/-- A tidy statement is written on whole lines. -/
theorem Stmt.isSolid_lines (width : Nat) : ∀ {s : Stmt}, s.IsTidy → ∀ level : Nat,
    ∀ l ∈ s.lines width level, IsSolid l
  | .forEach x items body, ⟨hx, hitems, hbody⟩, level =>
    isSolid_block (isHeader_for x items) (by simp [lineFeed_not_mem_spelling hx, hitems])
      (by decide) width level (isSolid_linesOf width hbody (level + 1))
  | .ifThen condition body, ⟨hcondition, hbody⟩, level =>
    isSolid_block (isHeader_if condition) (by simp [hcondition]) (by decide) width level
      (isSolid_linesOf width hbody (level + 1))
  | .giveBack value, hvalue, level => by
    have hline : '\n' ∉ ("return " ++ value.text ++ ";").toList := by
      rw [Stmt.IsTidy] at hvalue
      simp [hvalue]
    exact List.forall_mem_singleton.mpr ((isPlainLine_return value).isSolid hline width level)
  | .bind x value, ⟨hx, hvalue⟩, level => by
    have hline : '\n' ∉ ("let " ++ Name.spelling x ++ " = " ++ value.text ++ ";").toList := by
      simp [lineFeed_not_mem_spelling hx, hvalue]
    exact List.forall_mem_singleton.mpr ((isPlainLine_let x value).isSolid hline width level)
  | .result value, ⟨hline, hvalue⟩, level =>
    List.forall_mem_singleton.mpr (hvalue.isSolid hline width level)
  | .collect items x body, ⟨hline, hitems, hx, hbody⟩, level => by
    have hcloser : "\x7d)" ∈ closers := by decide
    have hmap := isSolid_block (isHeader_map x) (by simp [lineFeed_not_mem_spelling hx]) hcloser
      width (level + 1) (isSolid_linesOf width hbody (level + 2))
    -- The lines of a chain are no headers, and are whole by their first character.
    have hchain : ∀ words ∈ [".into_iter()", ".collect()"],
        words.toList.head? = some '.' ∧ '\n' ∉ words.toList := by decide
    have hinto := hchain ".into_iter()" (by decide)
    have hcollect := hchain ".collect()" (by decide)
    have hlines : (Stmt.collect items x body).lines width level =
        indented width level items.text :: indented width (level + 1) ".into_iter()" ::
          (indented width (level + 1) (".map(|" ++ Name.spelling x ++ "|" ++ " \x7b") ::
            (linesOf width (level + 2) body ++ [indented width (level + 1) "\x7d)"]) ++
            [indented width (level + 1) ".collect()"]) := by
      simp [Stmt.lines, String.append_assoc]
    rw [hlines, List.forall_mem_cons, List.forall_mem_cons, List.forall_mem_append,
      List.forall_mem_singleton]
    exact ⟨hitems.isSolid hline width level,
      isSolid_indented hinto.1 (by decide) hinto.2 width _, hmap,
      isSolid_indented hcollect.1 (by decide) hcollect.2 width _⟩

/-- So are tidy statements. -/
theorem isSolid_linesOf (width : Nat) : ∀ {ss : List Stmt}, AreTidy ss → ∀ level : Nat,
    ∀ l ∈ linesOf width level ss, IsSolid l
  | [], _, _ => List.forall_mem_nil _
  | _ :: _, ⟨hs, hrest⟩, level => List.forall_mem_append.mpr
    ⟨Stmt.isSolid_lines width hs level, isSolid_linesOf width hrest level⟩

end

/-! ### Functions -/

namespace Function

/-- A function that is written on whole lines. -/
structure IsTidy (f : Function) : Prop where
  header : '\n' ∉ f.header.toList
  body : AreTidy f.body

variable {f : Function}

/-- A function begins with its visibility, or with what makes it one. -/
theorem isHeader_header (f : Function) : IsHeader f.header := by
  unfold header
  cases f.exported
  · exact isHeader_of_head? (c := 'f') (by simp) (by decide)
  · exact isHeader_of_head? (c := 'p') (by simp) (by decide)

/-- The lines of a tidy function stand right among the members. -/
theorem IsTidy.nests (h : f.IsTidy) (width : Nat) :
    Nests width 1 (chainsOf f.body) (f.lines width) :=
  (nests_linesOf width h.body 2).block f.isHeader_header (by decide)

/-- The lines of a tidy function are a group. -/
theorem IsTidy.isGroup (h : f.IsTidy) (width : Nat) : IsGroup (f.lines width) where
  solid := isSolid_block f.isHeader_header h.header (by decide) width 1
    (isSolid_linesOf width h.body 2)
  first := ⟨_, rfl, (f.isHeader_header.does width 1).closes⟩
  last := by
    have hcloser : Does (indented width 1 "\x7d") false true false false :=
      does_closer (by decide) width 1
    refine ⟨_, ?_, hcloser.opens⟩
    rw [lines, List.getLast?_cons, List.getLast?_concat]
    rfl

end Function

/-! ### The functions of a companion -/

section

variable {s : Summary}

/-- The names chosen for a companion stand on one line. -/
theorem lineFeed_not_mem_tableName (s : Summary) : '\n' ∉ (tableName s).toList :=
  lineFeed_not_mem_fresh (by decide) _

theorem lineFeed_not_mem_genericName (s : Summary) : '\n' ∉ (genericName s).toList :=
  lineFeed_not_mem_fresh (by decide) _

theorem lineFeed_not_mem_local (h : s.defect? = none) (taken : List String) :
    '\n' ∉ (Name.fresh (uncapitalize s.name) taken).toList :=
  lineFeed_not_mem_fresh (Name.mark_not_mem_uncapitalize
    (Summary.isIdentifier_names h _ s.name_mem_names) (by decide)) _

/-- The lookup by a parameter with a type on one line is tidy. -/
theorem isTidy_lookup {style : Style} {p : Parameter} (h : s.defect? = none)
    (hp : p ∈ s.parameters) (hruntime : '\n' ∉ style.runtime.toList)
    (htype : '\n' ∉ p.type.toList) : (lookup style s p).IsTidy := by
  have hname := lineFeed_not_mem_names h _ s.name_mem_names
  have hparameter := lineFeed_not_mem_names h _ (Summary.mem_names_of_mem_parameters hp)
  have hcapital := Name.mark_not_mem_capitalize (c := '\n')
    (Summary.isIdentifier_names h _ (Summary.mem_names_of_mem_parameters hp)) (by decide)
  have htable := lineFeed_not_mem_tableName s
  have hloop : '\n' ∉ (loopName s p).toList := lineFeed_not_mem_local h _
  have hmissing : IsPlainLine (Expr.missing style.runtime).text :=
    isPlainLine_of_ends (c := ':') (d := ')') (by simp [resultPath]) rfl (by decide)
  -- One fact for every text of the statements; the type of the parameter is in the header.
  have hspelling := lineFeed_not_mem_spelling hparameter
  have hvalue := lineFeed_not_mem_spelling hloop
  have harray : '\n' ∉ (Expr.table (tableName s)).text.toList := by simp [htable]
  have htest : '\n' ∉ (Expr.equal (.access (loopName s p) (Name.accessor p.name))
      (.name p.name)).text.toList := by
    simp [Name.accessor, hvalue, hcapital, hspelling]
  have hfound : '\n' ∉ (Expr.found (.name (loopName s p))).text.toList := by
    simp [resultPath, hvalue]
  have hnone : '\n' ∉ (Expr.missing style.runtime).text.toList := by
    simp [resultPath, missingPath, hruntime]
  refine ⟨?_, ⟨hloop, harray, ⟨htest, hfound, trivial⟩, trivial⟩, ⟨hnone, hmissing⟩, trivial⟩
  simp [lookup, Function.header, Binder.text, Name.lookup, resultPath, missingPath, hspelling,
    hcapital, htype, hname, hruntime]

/-- `associate` is tidy. -/
theorem isTidy_associate (h : s.defect? = none) : (associate s).IsTidy := by
  have hname := lineFeed_not_mem_names h _ s.name_mem_names
  have hgeneric := lineFeed_not_mem_genericName s
  have htable := lineFeed_not_mem_tableName s
  have hitem : '\n' ∉ (itemName s).toList := lineFeed_not_mem_local h _
  have hspelling : ∀ n ∈ [itemName s, "value", "transform"],
      '\n' ∉ (Name.spelling n).toList := by
    have hall : ∀ n ∈ ["value", "transform"], '\n' ∉ n.toList := by decide
    have hnames : ∀ n ∈ [itemName s, "value", "transform"], '\n' ∉ n.toList :=
      List.forall_mem_cons.mpr ⟨hitem, hall⟩
    exact fun n hn => lineFeed_not_mem_spelling (hnames n hn)
  have harray : '\n' ∉ (Expr.table (tableName s)).text.toList := by simp [htable]
  have happlied : '\n' ∉ (Expr.applied "transform" (itemName s)).text.toList := by
    simp [hspelling]
  have hpairline : '\n' ∉ (Expr.pair (itemName s) "value").text.toList := by simp [hspelling]
  have hpair : IsPlainLine (Expr.pair (itemName s) "value").text :=
    isPlainLine_of_ends (c := '(') (d := ')') (by simp) rfl (by decide)
  have htableLine : IsPlainLine (Expr.table (tableName s)).text :=
    isPlainLine_of_ends (c := 'S') (d := ')') (by simp) rfl (by decide)
  refine ⟨?_, ⟨harray, htableLine, hitem, ⟨by decide, happlied⟩, ⟨hpairline, hpair⟩,
    trivial⟩, trivial⟩
  simp [associate, Function.header, Binder.text, hspelling, hname, hgeneric]

/-- `enumList` is tidy. -/
theorem isTidy_enumList (h : s.defect? = none) : (enumList s).IsTidy := by
  have hname := lineFeed_not_mem_names h _ s.name_mem_names
  have htable := lineFeed_not_mem_tableName s
  have hlist : IsPlainLine (Expr.listOf (.table (tableName s))).text :=
    isPlainLine_of_ends (c := ':') (d := ')') (by simp) rfl (by decide)
  have hline : '\n' ∉ (Expr.listOf (.table (tableName s))).text.toList := by simp [htable]
  refine ⟨?_, ⟨hline, hlist⟩, trivial⟩
  simp [enumList, Function.header, hname]

/-- Texts on one line with a separator between them are on one line. -/
theorem lineFeed_not_mem_intercalate {separator : String} (h : '\n' ∉ separator.toList) :
    ∀ {pieces : List String}, (∀ p ∈ pieces, '\n' ∉ p.toList) →
      '\n' ∉ (separator.intercalate pieces).toList
  | [], _ => List.not_mem_nil
  | [p], hpieces => by simpa using hpieces
  | p :: q :: pieces, hpieces => by
    obtain ⟨hp, hrest⟩ := List.forall_mem_cons.mp hpieces
    have hmore := lineFeed_not_mem_intercalate h hrest
    rw [String.intercalate_cons_cons]
    simp only [String.toList_append, List.mem_append, not_or]
    exact ⟨⟨hp, h⟩, hmore⟩

/-- The private table is tidy. -/
theorem isTidy_table (h : s.defect? = none) : (table s).IsTidy := by
  have hname := lineFeed_not_mem_names h _ s.name_mem_names
  have hconstants : ∀ n ∈ s.constants, '\n' ∉ n.toList := fun n hn =>
    lineFeed_not_mem_names h n (Summary.mem_names_of_mem_constants hn)
  have htable := lineFeed_not_mem_tableName s
  have hvariants : IsPlainLine (Expr.variants s.name s.constants).text :=
    isPlainLine_of_ends (c := '[') (d := ']') (by simp) rfl (by decide)
  have hline : '\n' ∉ (Expr.variants s.name s.constants).text.toList := by
    have hpaths : ∀ n ∈ s.constants, '\n' ∉ (s.name ++ "::" ++ Name.spelling n).toList :=
      fun n hn => by simp [hname, lineFeed_not_mem_spelling (hconstants n hn)]
    have hcomma : '\n' ∉ ", ".toList := by decide
    have hlist := lineFeed_not_mem_intercalate hcomma (List.forall_mem_map.mpr hpaths)
    simp only [Expr.text_variants, String.toList_append, List.mem_append, hlist]
    decide
  -- The type of the table holds the number of its constants.
  have hcount : '\n' ∉ Nat.toDigits 10 s.constants.length := by
    intro hmem
    have hdigit := Nat.isDigit_of_mem_toDigits (by decide) (by decide) hmem
    revert hdigit
    decide
  refine ⟨?_, ⟨hline, hvariants⟩, trivial⟩
  simp [table, Function.header, hname, htable, hcount]

/-! ### The lines of a companion -/

/-- The lines in front of the members are whole. -/
theorem isSolid_heads (h : s.defect? = none) (style : Style) :
    ∀ g ∈ (code style s).heads, ∀ l ∈ g, IsSolid l := by
  have hscope := lineFeed_not_mem_scope h
  have hname : '\n' ∉ s.companionName.toList := by
    simp [Summary.companionName, Name.companion, lineFeed_not_mem_names h _ s.name_mem_names]
  have hsolid : ∀ {words : String} {c : Char}, words.toList.head? = some c →
      isWhiteSpace c = false → '\n' ∉ words.toList → IsSolid words := by
    intro words c hc hvisible hline
    simpa using isSolid_indented hc hvisible hline 0 0
  simp only [Code.heads, code, List.forall_mem_cons, List.not_mem_nil, IsEmpty.forall_iff,
    implies_true, and_true]
  refine ⟨hsolid (c := '/') (by simp) (by decide) (by simp [hscope]),
    ⟨hsolid (c := '#') (by decide) (by decide) (by decide),
      hsolid (c := 'p') (by simp) (by decide) (by simp [hname])⟩,
    hsolid (c := '#') (by decide) (by decide) (by decide),
    hsolid (c := 'i') (by simp) (by decide) (by simp [hname])⟩

/-- A brace is no part of a module path. -/
theorem brace_not_mem_scope (h : s.defect? = none) : '\x7b' ∉ s.scope.toList := by
  intro hmem
  obtain ⟨g, hg, hbrace⟩ := ModulePath.mem_segments (by decide) hmem
  have hword := Name.isWordChar_of_mem ((s.defect?_eq_none_iff.mp h).2.1 g hg) hbrace
  revert hword
  decide

/-- The line with the module path is plain. -/
theorem isPlainLine_scope (h : s.defect? = none) : IsPlainLine ("// namespace " ++ s.scope) where
  toIsHeader := isHeader_of_head? (c := '/') (by simp) (by decide)
  noChain := by simp
  noOpener := by
    -- Nothing stands behind the module path, so its own characters count.
    intro hlast
    have hmem := List.mem_of_getLast? hlast
    simp [brace_not_mem_scope h] at hmem

/-- The line with the struct is plain. -/
theorem isPlainLine_struct (name : String) : IsPlainLine ("pub struct " ++ name ++ ";") :=
  isPlainLine_of_ends (c := 'p') (d := ';') (by simp) rfl (by decide)

/-- The line of a constant is plain. -/
theorem isPlainLine_constantLine (n : String) : IsPlainLine (constantLine n) :=
  isPlainLine_of_ends (c := 'p') (d := ';') (by simp) rfl (by decide)

section

variable {style : Style} (h : s.defect? = none) (hruntime : '\n' ∉ style.runtime.toList)
  (htypes : ∀ p ∈ s.parameters, '\n' ∉ p.type.toList)

include h hruntime htypes

/-- The functions of a companion are tidy. -/
theorem isTidy_functions : ∀ f ∈ (code style s).functions, f.IsTidy := by
  refine List.forall_mem_append.mpr ⟨List.forall_mem_map.mpr fun p hp =>
    isTidy_lookup h hp hruntime (htypes p hp), ?_⟩
  simp only [List.forall_mem_cons, List.not_mem_nil, IsEmpty.forall_iff, implies_true, and_true]
  exact ⟨isTidy_associate h, isTidy_enumList h, isTidy_table h⟩

/-- The groups of members are whole lines. -/
theorem isGroup_groups (width : Nat) : ∀ g ∈ (code style s).groups width, IsGroup g := by
  refine List.forall_mem_append.mpr ⟨?_, List.forall_mem_map.mpr fun f hf =>
    (isTidy_functions h hruntime htypes f hf).isGroup width⟩
  intro g hg
  unfold Code.constantGroups at hg
  split at hg
  next => cases hg
  next hne =>
    obtain rfl := List.mem_singleton.mp hg
    have hall : ∀ words ∈ s.constants.map constantLine,
        IsPlainLine words ∧ '\n' ∉ words.toList := List.forall_mem_map.mpr fun n hn =>
      ⟨isPlainLine_constantLine n, lineFeed_not_mem_constantLine
        (lineFeed_not_mem_names h n (Summary.mem_names_of_mem_constants hn))⟩
    simpa [Function.comp_def, code] using
      isGroup_lines hall (by simpa [code] using hne) width 1

end

end

end Companion

end EnumCompanion
