import EnumCompanion.Proofs.Companion.Readback
import EnumCompanion.Proofs.Grammar.Expressions
import EnumCompanion.Proofs.Name.Visible

/-!
# `EnumCompanion.Proofs.Companion.Whole`: the members of a companion are whole

All delimiters between the braces of a companion match, so that what is
written as a member cannot be read as anything else. Of the names this
takes that they look like names, of the types and of the path to the
runtime that they are whole themselves.

* `Expr.isWhole_text` and `Stmt.addsWhole_write`: expressions and
  statements, by recursion on them. A statement adds lines to a page, and
  what a block adds is whole although what opens it is not.
* `Function.isWhole_block`: a function.
* `isWhole_members`: all members of the companion of a summary.
-/

set_option autoImplicit false

namespace EnumCompanion

open EnumCompanion.Token

/-! ### Groups on a line -/

namespace Token

/-- What ends a name on a line of code. -/
theorem endsName_of_mark {c : Char} {x : List Char}
    (h : c ∈ [' ', '\n', '.', ',', ':', ';', '|', '<', '>', '(', ')', ']', '\x7d']) :
    EndsName (c :: x) := by
  have all : [' ', '\n', '.', ',', ':', ';', '|', '<', '>', '(', ')', ']', '\x7d'].all
      (fun c => !(['"', '#', '\''].contains c) && !Text.isIdentifierContinue c) = true := by rfl
  have hc := List.all_eq_true.mp all c h
  simp only [Bool.and_eq_true, Bool.not_eq_true', ← Bool.not_eq_true, List.contains_iff_mem] at hc
  exact endsName_cons hc.1 (Bool.not_eq_true _ ▸ hc.2)

/-- What ends a line of tokens ends a name. -/
theorem Closes.endsName {k : List Char} (h : Closes k) : EndsName k := by
  cases k with
  | nil => exact nofun
  | cons c x =>
    have hsub : [' ', ')', ']'] ⊆
        [' ', '\n', '.', ',', ':', ';', '|', '<', '>', '(', ')', ']', '\x7d'] := by decide
    exact endsName_of_mark (hsub (h c rfl))

/-- No name begins with a slash. -/
theorem IsNameLike.slash_not_head {w : List Char} (h : IsNameLike w) (k : List Char) :
    (w ++ k).head? ≠ some '/' := by
  obtain ⟨c, x, rfl⟩ := List.exists_cons_of_ne_nil h.nonempty
  intro hhead
  obtain rfl := Option.some.inj hhead
  exact (h.visible '/' List.mem_cons_self).2 (by decide)

/-- Nor do texts with something between them of which none does. -/
theorem slash_not_head_intercalate {separator : String} {k : List Char} :
    ∀ {pieces : List String}, (∀ p ∈ pieces, ∀ x, (p.toList ++ x).head? ≠ some '/') →
      k.head? ≠ some '/' → ((separator.intercalate pieces).toList ++ k).head? ≠ some '/'
  | [], _, hk => hk
  | [p], h, _ => by simpa only [String.intercalate_singleton] using h p List.mem_cons_self k
  | p :: q :: pieces, h, _ => by
    rw [String.intercalate_cons_cons]
    simp only [String.toList_append, List.append_assoc]
    exact h p List.mem_cons_self _

end Token

/-- Nor does the spelling of a name. -/
theorem Name.slash_not_head_spelling {s : String} (h : IsNameLike s.toList) (k : List Char) :
    ((Name.spelling s).toList ++ k).head? ≠ some '/' := by
  unfold Name.spelling
  split
  next => simp
  next => exact h.slash_not_head k

namespace Companion

/-! ### Expressions -/

namespace Expr

/-- An expression whose names look like names, and whose path to the runtime
is whole where it stands. -/
def IsReadable : Expr → Prop
  | .name x => IsNameLike x.toList
  | .table f => IsNameLike f.toList
  | .access x accessor => IsNameLike x.toList ∧ IsNameLike accessor.toList
  | .equal l r => l.IsReadable ∧ r.IsReadable
  | .found v => v.IsReadable
  | .missing runtime => ∀ k, IsWhole ('(' :: ((missingPath runtime).toList ++ [')'])) k
  | .listOf a => a.IsReadable
  | .variants enumName names =>
    IsNameLike enumName.toList ∧ ∀ n ∈ names, IsNameLike n.toList
  | .applied f x => IsNameLike f.toList ∧ IsNameLike x.toList
  | .pair x y => IsNameLike x.toList ∧ IsNameLike y.toList

/-- No expression begins with a slash. -/
theorem slash_not_head_text : ∀ {e : Expr}, e.IsReadable →
    ∀ k : List Char, (e.text.toList ++ k).head? ≠ some '/'
  | .name x, h, k => Name.slash_not_head_spelling h k
  | .table f, _, k => by simp
  | .access x accessor, h, k => by
    simp only [text_access, String.toList_append, List.append_assoc]
    exact Name.slash_not_head_spelling h.1 _
  | .equal l r, h, k => by
    simp only [text_equal, String.toList_append, List.append_assoc]
    exact slash_not_head_text h.1 _
  | .found v, _, k => by simp [resultPath]
  | .missing runtime, _, k => by simp [resultPath]
  | .listOf a, _, k => by simp
  | .variants enumName names, _, k => by simp
  | .applied f x, h, k => by
    simp only [text_applied, String.toList_append, List.append_assoc]
    exact h.1.slash_not_head _
  | .pair x y, _, k => by simp

/-- The variants of an enum, with commas between them, are whole. -/
theorem isWhole_variants {enumName : String} (he : IsNameLike enumName.toList)
    {names : List String} (hnames : ∀ n ∈ names, IsNameLike n.toList) {k : List Char}
    (hk : EndsName k) :
    IsWhole (", ".intercalate
      (names.map fun n => enumName ++ "::" ++ Name.spelling n)).toList k := by
  refine isWhole_intercalate ", " (by rfl) (fun _ => endsName_of_mark (by decide)) hk ?_
  intro p hp k' hk'
  obtain ⟨n, hn, rfl⟩ := List.mem_map.mp hp
  have htext : (enumName ++ "::" ++ Name.spelling n).toList =
      enumName.toList ++ ("::".toList ++ (Name.spelling n).toList) := by simp
  rw [htext]
  refine (isWhole_name he (endsName_of_mark (by decide))).append ?_
  exact (isWhole_phrase (by rfl) _).append (Name.isWhole_spelling (hnames n hn) hk')

/-- A call of a function with one argument. -/
theorem isWhole_call {cs ds k : List Char} (hcs : ∀ k', IsWhole cs ('(' :: k'))
    (hds : IsWhole ds (')' :: k)) (hslash : (ds ++ [')']).head? ≠ some '/') :
    IsWhole (cs ++ ('(' :: (ds ++ [')']))) k :=
  (hcs _).append (IsWhole.group .parenthesis hds hslash)

/-- A path of fixed names in front of an argument. -/
theorem isWhole_path {cs : List Char} (h : cs.all isPlain = true) (k : List Char) :
    IsWhole cs ('(' :: k) :=
  isWhole_plain (List.all_eq_true.mp h) fun _ _ _ => endsName_of_mark (by decide)

/-- A readable expression is whole. -/
theorem isWhole_text : ∀ {e : Expr}, e.IsReadable → ∀ {k : List Char}, EndsName k →
    IsWhole e.text.toList k
  | .name x, h, k, hk => Name.isWhole_spelling h hk
  | .table f, h, k, _ => by
    have htext : (Expr.table f).text.toList = "Self::".toList ++ (f.toList ++ ('(' :: ([] ++ [')']))) := by
      simp
    rw [htext]
    refine (isWhole_phrase (by rfl) _).append (isWhole_call (fun _ => ?_) (isWhole_nil _) (by decide))
    exact isWhole_name h (endsName_of_mark (by decide))
  | .access x accessor, h, k, _ => by
    have htext : (Expr.access x accessor).text.toList =
        (Name.spelling x).toList ++ (".".toList ++ (accessor.toList ++ ('(' :: ([] ++ [')'])))) := by
      simp
    rw [htext]
    refine (Name.isWhole_spelling h.1 (endsName_of_mark (by decide))).append ?_
    refine (isWhole_phrase (by rfl) _).append (isWhole_call (fun _ => ?_) (isWhole_nil _) (by decide))
    exact isWhole_name h.2 (endsName_of_mark (by decide))
  | .equal l r, h, k, hk => by
    have htext : (Expr.equal l r).text.toList =
        l.text.toList ++ (" == ".toList ++ r.text.toList) := by
      simp
    rw [htext]
    refine (isWhole_text h.1 (endsName_of_mark (by decide))).append ?_
    exact (isWhole_phrase (by rfl) _).append (isWhole_text h.2 hk)
  | .found v, h, k, _ => by
    have htext : (Expr.found v).text.toList =
        "::core::result::Result::Ok".toList ++ ('(' :: (v.text.toList ++ [')'])) := by
      simp [resultPath]
    rw [htext]
    refine isWhole_call (isWhole_path (by rfl)) ?_ (slash_not_head_text (e := v) h _)
    exact isWhole_text (e := v) h (endsName_of_mark (by decide))
  | .missing runtime, h, k, _ => by
    have htext : (Expr.missing runtime).text.toList =
        "::core::result::Result::Err".toList ++
          ('(' :: ((missingPath runtime).toList ++ [')'])) := by
      simp [resultPath]
    rw [htext]
    exact (isWhole_path (by rfl) _).append (h k)
  | .listOf a, h, k, _ => by
    have htext : (Expr.listOf a).text.toList =
        "::std::vec::Vec::from".toList ++ ('(' :: (a.text.toList ++ [')'])) := by
      simp
    rw [htext]
    refine isWhole_call (isWhole_path (by rfl)) ?_ (slash_not_head_text (e := a) h _)
    exact isWhole_text (e := a) h (endsName_of_mark (by decide))
  | .variants enumName names, h, k, _ => by
    have htext : (Expr.variants enumName names).text.toList =
        '[' :: ((", ".intercalate
          (names.map fun n => enumName ++ "::" ++ Name.spelling n)).toList ++ [']']) := by
      simp only [text_variants, String.toList_append]
      rfl
    rw [htext]
    have hlist := isWhole_variants h.1 h.2 (k := ']' :: k) (endsName_of_mark (by decide))
    refine IsWhole.group .bracket hlist ?_
    refine slash_not_head_intercalate (fun p hp x => ?_) (by decide)
    obtain ⟨n, -, rfl⟩ := List.mem_map.mp hp
    simp only [String.toList_append, List.append_assoc]
    exact h.1.slash_not_head _
  | .applied f x, h, k, _ => by
    have htext : (Expr.applied f x).text.toList =
        f.toList ++ ('(' :: (("&".toList ++ (Name.spelling x).toList) ++ [')'])) := by
      simp
    rw [htext]
    refine isWhole_call (fun _ => ?_) ((isWhole_phrase (by rfl) _).append ?_) (by simp)
    · exact isWhole_name h.1 (endsName_of_mark (by decide))
    · exact Name.isWhole_spelling h.2 (endsName_of_mark (by decide))
  | .pair x y, h, k, _ => by
    have htext : (Expr.pair x y).text.toList =
        '(' :: (((Name.spelling x).toList ++ (", ".toList ++ (Name.spelling y).toList)) ++ [')']) := by
      simp
    rw [htext]
    refine IsWhole.group .parenthesis ?_ ?_
    · refine (Name.isWhole_spelling h.1 (endsName_of_mark (by decide))).append ?_
      refine (isWhole_phrase (by rfl) _).append (Name.isWhole_spelling h.2 ?_)
      exact endsName_of_mark (by decide)
    · rw [List.append_assoc]
      exact Name.slash_not_head_spelling h.1 _

end Expr

end Companion

/-! ### Lines of a page -/

namespace Page

/-- A page has whole lines added to it. -/
def AddsWhole (p q : Page) : Prop :=
  ∃ added : String, q.text = p.text ++ added ∧ ∀ k, IsWhole added.toList k

theorem AddsWhole.refl (p : Page) : AddsWhole p p :=
  ⟨"", String.append_empty.symm, isWhole_nil⟩

theorem AddsWhole.trans {p q r : Page} (h : AddsWhole p q) (h' : AddsWhole q r) :
    AddsWhole p r := by
  obtain ⟨a, hq, ha⟩ := h
  obtain ⟨b, hr, hb⟩ := h'
  refine ⟨a ++ b, by rw [hr, hq, String.append_assoc], fun k => ?_⟩
  rw [String.toList_append]
  exact (ha _).append (hb k)

/-- The depth of a page is nothing on the page. -/
theorem AddsWhole.indent {p q : Page} (h : AddsWhole p q) : AddsWhole p q.indent := h

theorem AddsWhole.dedent {p q : Page} (h : AddsWhole p q) : AddsWhole p q.dedent := h

/-- In front of what a line holds stand blanks. -/
theorem exists_text_line (p : Page) (content : String) :
    ∃ lead : String, (p.line content).text = p.text ++ (lead ++ (content ++ "\n")) ∧
      ∀ k, IsWhole lead.toList k := by
  refine ⟨(if p.wantsBlank && !p.atBlockStart then "\n" else "") ++ p.margin,
    by simp [line, String.append_assoc], fun k => isWhole_blanks (fun c hc => ?_) k⟩
  have hfeed : isLexicalBlank '\n' = true := by rfl
  have hblank : isLexicalBlank ' ' = true := by rfl
  rw [String.toList_append, List.mem_append] at hc
  rcases hc with hc | hc
  · split at hc
    · obtain rfl := List.mem_singleton.mp hc
      exact hfeed
    · cases hc
  · rw [margin, String.toList_ofList] at hc
    rw [List.eq_of_mem_replicate hc]
    exact hblank

/-- A line feed is whole. -/
theorem isWhole_lineFeed (k : List Char) : IsWhole ['\n'] k :=
  isWhole_phrase (by rfl) k

/-- A whole line. -/
theorem addsWhole_line (p : Page) {content : String}
    (h : ∀ k, IsWhole content.toList ('\n' :: k)) : AddsWhole p (p.line content) := by
  obtain ⟨lead, htext, hlead⟩ := exists_text_line p content
  refine ⟨lead ++ (content ++ "\n"), htext, fun k => ?_⟩
  rw [String.toList_append, String.toList_append]
  exact (hlead _).append ((h k).append (isWhole_lineFeed k))

/-- A block with whole lines in it, if its first line and what closes it are
whole around them. -/
theorem addsWhole_block (p : Page) {q : Page} {header : String} (closer : String)
    (hbody : AddsWhole (p.openBlock header) q)
    (hwhole : ∀ body k, (∀ k', IsWhole body k') →
      IsWhole (header.toList ++ (' ' :: '\x7b' :: '\n' :: (body ++ closer.toList))) k) :
    AddsWhole p (q.closeBlockWith closer) := by
  obtain ⟨lead, hopen, hlead⟩ := exists_text_line p (header ++ " \x7b")
  obtain ⟨body, hq, hlines⟩ := hbody
  obtain ⟨last, hclose, hlast⟩ := exists_text_line { q.dedent with wantsBlank := false } closer
  -- The margin of what closes the block is part of what is between the delimiters.
  have hbodylast : ∀ k, IsWhole (body.toList ++ last.toList) k := fun k =>
    (hlines _).append (hlast k)
  refine ⟨lead ++ (header ++ (" \x7b\n" ++ (body ++ (last ++ (closer ++ "\n"))))), ?_, ?_⟩
  · have hopened : (p.openBlock header).text = p.text ++ (lead ++ (header ++ " \x7b\n")) := by
      rw [show (p.openBlock header).text = (p.line (header ++ " \x7b")).text from rfl, hopen]
      simp [String.append_assoc]
    have hclosed : (q.closeBlockWith closer).text = q.text ++ (last ++ (closer ++ "\n")) := hclose
    rw [hclosed, hq, hopened]
    simp [String.append_assoc]
  · intro k
    have hblock := hwhole (body.toList ++ last.toList) ('\n' :: k) hbodylast
    have hshape : (lead ++ (header ++ (" \x7b\n" ++ (body ++ (last ++ (closer ++ "\n")))))).toList =
        lead.toList ++ ((header.toList ++ (' ' :: '\x7b' :: '\n' ::
          ((body.toList ++ last.toList) ++ closer.toList))) ++ ['\n']) := by
      simp
    rw [hshape]
    exact (hlead _).append (hblock.append (isWhole_lineFeed k))

/-- A block between braces, behind a whole header. -/
theorem addsWhole_braces (p : Page) {q : Page} {header : String}
    (hheader : ∀ k, IsWhole header.toList (' ' :: k)) (hbody : AddsWhole (p.openBlock header) q) :
    AddsWhole p q.closeBlock := by
  refine addsWhole_block p "\x7d" hbody fun body k hlines => ?_
  have hinner : IsWhole ('\n' :: body) ('\x7d' :: k) :=
    (isWhole_lineFeed _).append (hlines _)
  have hbraces : IsWhole ('\x7b' :: (('\n' :: body) ++ ['\x7d'])) k :=
    IsWhole.group .brace hinner (by simp)
  have hblank : IsWhole [' '] ('\x7b' :: (('\n' :: body) ++ ['\x7d']) ++ k) :=
    isWhole_phrase (by rfl) _
  exact (hheader _).append (hblank.append hbraces)

end Page

namespace Companion

/-! ### Statements -/

mutual

/-- A statement whose names look like names and whose expressions are
readable. -/
def Stmt.IsReadable : Stmt → Prop
  | .forEach x items body => IsNameLike x.toList ∧ items.IsReadable ∧ AreReadable body
  | .ifThen condition body => condition.IsReadable ∧ AreReadable body
  | .giveBack value => value.IsReadable
  | .bind x value => IsNameLike x.toList ∧ value.IsReadable
  | .result value => value.IsReadable
  | .collect items x body => items.IsReadable ∧ IsNameLike x.toList ∧ AreReadable body

/-- Statements that are readable. -/
def AreReadable : List Stmt → Prop
  | [] => True
  | s :: rest => s.IsReadable ∧ AreReadable rest

end

/-- The line that a loop begins with is whole. -/
theorem isWhole_loop {x : String} (hx : IsNameLike x.toList) {items : Expr}
    (hitems : items.IsReadable) (k : List Char) :
    IsWhole ("for " ++ Name.spelling x ++ " in " ++ items.text).toList (' ' :: k) := by
  have htext : ("for " ++ Name.spelling x ++ " in " ++ items.text).toList =
      "for ".toList ++ ((Name.spelling x).toList ++ (" in ".toList ++ items.text.toList)) := by
    simp
  rw [htext]
  refine (isWhole_phrase (by rfl) _).append ?_
  refine (Name.isWhole_spelling hx (endsName_of_mark (by decide))).append ?_
  exact (isWhole_phrase (by rfl) _).append (Expr.isWhole_text hitems (endsName_of_mark (by decide)))

/-- A closure with whole lines in it is whole, as the argument that it is. -/
theorem isWhole_closure {x : String} (hx : IsNameLike x.toList) {body k : List Char}
    (hbody : ∀ k', IsWhole body k') :
    IsWhole ((".map(|" ++ Name.spelling x ++ "|").toList ++
      (' ' :: '\x7b' :: '\n' :: (body ++ ['\x7d', ')']))) k := by
  have htext : (".map(|" ++ Name.spelling x ++ "|").toList ++
      (' ' :: '\x7b' :: '\n' :: (body ++ ['\x7d', ')'])) =
      ".map".toList ++ ('(' :: (("|".toList ++ ((Name.spelling x).toList ++ ("| ".toList ++
        ('\x7b' :: (('\n' :: body) ++ ['\x7d']))))) ++ [')'])) := by
    simp
  -- From the inside out: the lines, the braces around them, the closure with its argument.
  have hlines : IsWhole ('\n' :: body) ('\x7d' :: (')' :: k)) :=
    (Page.isWhole_lineFeed _).append (hbody _)
  have hbraces : IsWhole ('\x7b' :: (('\n' :: body) ++ ['\x7d'])) (')' :: k) :=
    IsWhole.group .brace hlines (by simp)
  have hinner : IsWhole ("|".toList ++ ((Name.spelling x).toList ++ ("| ".toList ++
      ('\x7b' :: (('\n' :: body) ++ ['\x7d']))))) (')' :: k) := by
    refine (isWhole_phrase (by rfl) _).append ?_
    refine (Name.isWhole_spelling hx (endsName_of_mark (by decide))).append ?_
    exact (isWhole_phrase (by rfl) _).append hbraces
  rw [htext]
  exact (Expr.isWhole_path (by rfl) _).append
    (IsWhole.group .parenthesis hinner (by simp))

/-- The line that calls a method without arguments. -/
theorem addsWhole_call (p : Page) (name : String) (h : name.toList.all isPlain = true) :
    p.AddsWhole (p.line (name ++ "()")) := by
  refine Page.addsWhole_line p fun k => ?_
  have htext : (name ++ "()").toList = name.toList ++ ('(' :: ([] ++ [')'])) := by simp
  rw [htext]
  exact Expr.isWhole_call (Expr.isWhole_path h) (isWhole_nil _) (by decide)

mutual

/-- A readable statement adds whole lines. -/
theorem Stmt.addsWhole_write : ∀ (s : Stmt), s.IsReadable → ∀ p : Page, p.AddsWhole (s.write p)
  | .forEach x items body, h, p => by
    simp only [Stmt.write]
    exact Page.addsWhole_braces p (isWhole_loop h.1 h.2.1) (addsWhole_writeAll body h.2.2 _)
  | .ifThen condition body, h, p => by
    simp only [Stmt.write]
    refine Page.addsWhole_braces p (fun k => ?_) (addsWhole_writeAll body h.2 _)
    rw [String.toList_append]
    exact (isWhole_phrase (by rfl) _).append (Expr.isWhole_text h.1 (endsName_of_mark (by decide)))
  | .giveBack value, h, p => by
    simp only [Stmt.write]
    refine Page.addsWhole_line p fun k => ?_
    have htext : ("return " ++ value.text ++ ";").toList =
        "return ".toList ++ (value.text.toList ++ ";".toList) := by simp
    have hvalue : IsWhole value.text.toList (";".toList ++ '\n' :: k) :=
      Expr.isWhole_text (e := value) h (endsName_of_mark (by decide))
    rw [htext]
    exact (isWhole_phrase (by rfl) _).append (hvalue.append (isWhole_phrase (by rfl) _))
  | .bind x value, h, p => by
    simp only [Stmt.write]
    refine Page.addsWhole_line p fun k => ?_
    have htext : ("let " ++ Name.spelling x ++ " = " ++ value.text ++ ";").toList =
        "let ".toList ++ ((Name.spelling x).toList ++ (" = ".toList ++
          (value.text.toList ++ ";".toList))) := by simp
    rw [htext]
    refine (isWhole_phrase (by rfl) _).append ?_
    refine (Name.isWhole_spelling h.1 (endsName_of_mark (by decide))).append ?_
    refine (isWhole_phrase (by rfl) _).append ?_
    exact (Expr.isWhole_text h.2 (endsName_of_mark (by decide))).append (isWhole_phrase (by rfl) _)
  | .result value, h, p => by
    simp only [Stmt.write]
    exact Page.addsWhole_line p fun k =>
      Expr.isWhole_text (e := value) h (endsName_of_mark (by decide))
  | .collect items x body, h, p => by
    simp only [Stmt.write]
    have hitems : p.AddsWhole (p.line items.text).indent :=
      (Page.addsWhole_line p fun k =>
        Expr.isWhole_text h.1 (endsName_of_mark (by decide))).indent
    have hinto := addsWhole_call (p.line items.text).indent ".into_iter" (by rfl)
    have hbody := addsWhole_writeAll body h.2.2
      (((p.line items.text).indent.line ".into_iter()").openBlock
        (".map(|" ++ Name.spelling x ++ "|"))
    have hmap := Page.addsWhole_block _ "\x7d)" hbody fun lines k hlines =>
      isWhole_closure h.2.1 hlines
    have hcollect := ((hitems.trans hinto).trans hmap).trans (addsWhole_call _ ".collect" (by rfl))
    exact hcollect.dedent

/-- Readable statements add whole lines. -/
theorem addsWhole_writeAll : ∀ (ss : List Stmt), AreReadable ss →
    ∀ p : Page, p.AddsWhole (writeAll ss p)
  | [], _, p => .refl p
  | s :: rest, h, p => by
    rw [writeAll]
    exact (Stmt.addsWhole_write s h.1 p).trans (addsWhole_writeAll rest h.2 _)

end

/-! ### Functions -/

/-- A parameter whose name looks like one, and whose type is whole. -/
structure Binder.IsReadable (b : Binder) : Prop where
  name : IsNameLike b.name.toList
  type : IsSource b.type

/-- A parameter is whole between the parentheses of its function. -/
theorem Binder.isWhole_text {b : Binder} (h : b.IsReadable) {k : List Char} (hk : Closes k) :
    IsWhole b.text.toList k := by
  have htext : b.text.toList = (if b.mutable then "mut ".toList else []) ++
      ((Name.spelling b.name).toList ++ (": ".toList ++ b.type.toList)) := by
    unfold Binder.text
    cases b.mutable <;> simp
  rw [htext]
  refine IsWhole.append ?_ ((Name.isWhole_spelling h.name (endsName_of_mark (by decide))).append ?_)
  · cases b.mutable
    · exact isWhole_nil _
    · exact isWhole_phrase (by rfl) _
  · exact (isWhole_phrase (by rfl) _).append (h.type k hk)

/-- No parameter begins with a slash. -/
theorem Binder.slash_not_head_text {b : Binder} (h : b.IsReadable) (k : List Char) :
    (b.text.toList ++ k).head? ≠ some '/' := by
  unfold Binder.text
  cases b.mutable
  · simp only [String.toList_append, List.append_assoc]
    exact Name.slash_not_head_spelling h.name _
  · simp

namespace Function

/-- A function whose names look like names, and whose types, and the path to
the runtime in it, are whole. -/
structure IsReadable (f : Function) : Prop where
  name : IsNameLike f.name.toList
  generic : ∀ g ∈ f.generic, IsNameLike g.toList
  binder : ∀ b ∈ f.binder, b.IsReadable
  type : IsSource f.type
  body : AreReadable f.body

/-- The type parameter of a function is whole in its brackets. -/
theorem isWhole_generic {generic : Option String} (h : ∀ g ∈ generic, IsNameLike g.toList)
    (k : List Char) :
    IsWhole (match generic with | some g => "<" ++ g ++ ">" | none => "").toList k := by
  cases generic with
  | none => exact isWhole_nil k
  | some g =>
    have htext : ("<" ++ g ++ ">").toList = "<".toList ++ (g.toList ++ ">".toList) := by simp
    show IsWhole ("<" ++ g ++ ">").toList k
    rw [htext]
    refine (isWhole_phrase (by rfl) _).append ?_
    exact (isWhole_name (h g rfl) (endsName_of_mark (by decide))).append (isWhole_phrase (by rfl) k)

/-- The parameters of a function are whole in their parentheses. -/
theorem isWhole_binder {binder : Option Binder} (h : ∀ b ∈ binder, b.IsReadable) (k : List Char) :
    IsWhole ('(' :: ((match binder with | some b => b.text | none => "").toList ++ [')'])) k := by
  cases binder with
  | none => exact IsWhole.group .parenthesis (isWhole_nil _) (by decide)
  | some b =>
    have hwhole := Binder.isWhole_text (h b rfl) (closes_cons (c := ')') (by decide) k)
    exact IsWhole.group .parenthesis hwhole (Binder.slash_not_head_text (h b rfl) _)

/-- The header of a readable function is whole in front of its body. -/
theorem isWhole_header {f : Function} (h : f.IsReadable) (k : List Char) :
    IsWhole f.header.toList (' ' :: k) := by
  have htext : f.header.toList = (if f.exported then "pub " else "").toList ++ ("fn ".toList ++
      (f.name.toList ++ ((match f.generic with | some g => "<" ++ g ++ ">" | none => "").toList ++
        (('(' :: ((match f.binder with | some b => b.text | none => "").toList ++ [')'])) ++
          (" -> ".toList ++ f.type.toList))))) := by
    simp only [header, String.toList_append, List.append_assoc, List.cons_append, List.nil_append]
    rfl
  rw [htext]
  have hexported : ∀ k', IsWhole (if f.exported then "pub " else "").toList k' := by
    intro k'
    cases f.exported
    · exact isWhole_nil k'
    · exact isWhole_phrase (by rfl) k'
  refine (hexported _).append ((isWhole_phrase (by rfl) _).append ?_)
  refine (isWhole_name h.name ?_).append ((isWhole_generic h.generic _).append ?_)
  · -- The name ends at the bracket of the generic, or at the parenthesis if there is none.
    cases f.generic with
    | none => exact endsName_of_mark (by decide)
    | some g =>
      have hangle : ("<" ++ g ++ ">").toList = '<' :: (g.toList ++ ['>']) := by simp
      show EndsName (("<" ++ g ++ ">").toList ++ _ ++ _)
      rw [hangle]
      exact endsName_of_mark (by decide)
  · refine (isWhole_binder h.binder _).append ((isWhole_phrase (by rfl) _).append ?_)
    exact h.type _ (closes_cons (by decide) k)

/-- A readable function is whole. -/
theorem isWhole_block {f : Function} (h : f.IsReadable) (width : Nat) (k : List Char) :
    IsWhole (f.block width).toList k := by
  have hadds := Page.addsWhole_braces ⟨width, "", 1, false, true⟩ (isWhole_header h)
    (addsWhole_writeAll f.body h.body _)
  have hwrite := congrArg Page.text (write_eq f (p := ⟨width, "", 1, false, true⟩) rfl)
  obtain ⟨added, htext, hwhole⟩ := hadds
  have hblock : f.block width = added := by
    rw [Function.write, htext] at hwrite
    simpa using hwrite.symm
  rw [hblock]
  exact hwhole k

end Function

/-! ### The functions of a companion -/

/-- A style that writes the path to the runtime so that it is whole with the
name of the error behind it: as an argument in parentheses, and as the last
argument of a type. -/
structure Style.IsReadable (style : Style) : Prop where
  argument : ∀ k, IsWhole ('(' :: ((missingPath style.runtime).toList ++ [')'])) k
  parameter : IsSource (missingPath style.runtime ++ ">")

/-- A path of names is such a path to the runtime, be it global or not. -/
theorem Style.isReadable_of_path {style : Style} (isGlobal : Bool) {names : List String}
    (hnames : ∀ n ∈ names, IsNameLike n.toList)
    (hruntime : style.runtime = (if isGlobal then "::" else "") ++ "::".intercalate names) :
    style.IsReadable := by
  -- The path is written in two places, each with something of its own behind it.
  have hpath : ∀ {last k : List Char}, IsWhole last k → EndsName (last ++ k) →
      IsWhole ((if isGlobal then "::" else "").toList ++
        (("::".intercalate names).toList ++ last)) k := by
    intro last k hlast hends
    refine IsWhole.append ?_ (IsWhole.append ?_ hlast)
    · cases isGlobal
      · exact isWhole_nil _
      · exact isWhole_phrase (by rfl) _
    · exact isWhole_intercalate "::" (by rfl) (fun _ => endsName_of_mark (by decide)) hends
        fun n hn _ hk => isWhole_name (hnames n hn) hk
  have hshape : (missingPath style.runtime).toList = (if isGlobal then "::" else "").toList ++
      (("::".intercalate names).toList ++ "::NoConstantFound".toList) := by
    simp [missingPath, hruntime]
  constructor
  · intro k
    rw [hshape]
    refine IsWhole.group .parenthesis (hpath (isWhole_plain (List.all_eq_true.mp (by rfl)) fun _ _ _ => ?_) ?_) ?_
    · exact endsName_of_mark (by decide)
    · exact endsName_of_mark (by decide)
    · cases isGlobal
      · rw [List.append_assoc, List.append_assoc]
        exact slash_not_head_intercalate (fun n hn => (hnames n hn).slash_not_head) (by decide)
      · simp
  · intro k hk
    rw [String.toList_append, hshape, List.append_assoc, List.append_assoc]
    exact hpath (isWhole_phrase (by rfl) k) (endsName_of_mark (by decide))

/-- The path that is written unless another is given is one. -/
theorem Style.isReadable_default : ({} : Style).IsReadable := by
  have hnames : ∀ n ∈ ["enum_enhancer"], IsNameLike n.toList := fun n hn =>
    List.mem_singleton.mp hn ▸ Name.isNameLike_of_isIdentifier (by rfl)
  exact isReadable_of_path true hnames (by decide +kernel)

/-- The type parameter of `associate` looks like a name. -/
theorem isNameLike_genericName (s : Summary) : IsNameLike (genericName s).toList :=
  Name.isNameLike_fresh (Name.isNameLike_of_isIdentifier (by rfl)) _

/-- The name of the table looks like a name. -/
theorem isNameLike_tableName (s : Summary) : IsNameLike (tableName s).toList :=
  Name.isNameLike_fresh (Name.isNameLike_of_isIdentifier (by rfl)) _

section

variable {s : Summary} (hname : Name.isIdentifier s.name = true)

include hname

/-- A type with the enum as its first argument is whole. -/
theorem isWhole_applied {path rest k : List Char} (hpath : isPhrase path = true)
    (hends : EndsName (rest ++ k)) (hrest : IsWhole rest k) :
    IsWhole (path ++ (s.name.toList ++ rest)) k :=
  (isWhole_phrase hpath _).append
    ((isWhole_name (Name.isNameLike_of_isIdentifier hname) hends).append hrest)

/-- The local names for a variant look like names. -/
theorem isNameLike_local (taken : List String) :
    IsNameLike (Name.fresh (Text.uncapitalize s.name) taken).toList :=
  Name.isNameLike_fresh (Name.isNameLike_uncapitalize hname) taken

/-- A lookup is readable. -/
theorem isReadable_lookup {style : Style} (hstyle : style.IsReadable) {p : Parameter}
    (hp : Name.isIdentifier p.name = true) (htype : IsSource p.type) :
    (lookup style s p).IsReadable where
  name := Name.isNameLike_lookup hp
  generic := nofun
  binder := by
    intro b hb
    obtain rfl := Option.some.inj hb
    exact ⟨Name.isNameLike_of_isIdentifier hp, htype⟩
  type := by
    intro k hk
    have htext : (lookup style s p).type.toList =
        "::core::result::Result<".toList ++ (s.name.toList ++ (", ".toList ++
          (missingPath style.runtime ++ ">").toList)) := by simp [lookup, resultPath]
    rw [htext]
    refine isWhole_applied hname (by rfl) (endsName_of_mark (by decide)) ?_
    exact (isWhole_phrase (by rfl) _).append (hstyle.parameter k hk)
  body := by
    have hloop : IsNameLike (loopName s p).toList := isNameLike_local hname _
    have hparameter := Name.isNameLike_of_isIdentifier hp
    exact ⟨⟨hloop, isNameLike_tableName s, ⟨⟨⟨hloop, Name.isNameLike_accessor hp⟩, hparameter⟩, hloop, trivial⟩,
      trivial⟩, hstyle.argument, trivial⟩

/-- `associate` is readable. -/
theorem isReadable_associate : (associate s).IsReadable where
  name := by
    have hassociate : IsNameLike "associate".toList := Name.isNameLike_of_isIdentifier (by rfl)
    exact hassociate
  generic := by
    intro g hg
    obtain rfl := Option.some.inj hg
    exact isNameLike_genericName s
  binder := by
    intro b hb
    obtain rfl := Option.some.inj hb
    have htransform : IsNameLike "transform".toList := Name.isNameLike_of_isIdentifier (by rfl)
    refine ⟨htransform, fun k hk => ?_⟩
    have htext : ("impl FnMut(&" ++ s.name ++ ") -> " ++ genericName s).toList =
        ("impl FnMut".toList ++ ('(' :: (("&".toList ++ s.name.toList) ++ [')']))) ++
          (" -> ".toList ++ (genericName s).toList) := by simp
    have hargument : ∀ k', IsWhole ("&".toList ++ s.name.toList) (')' :: k') := fun k' =>
      (isWhole_phrase (by rfl) _).append
        (isWhole_name (Name.isNameLike_of_isIdentifier hname) (endsName_of_mark (by decide)))
    rw [htext]
    refine (Expr.isWhole_call (Expr.isWhole_path (by rfl)) (hargument _) (by simp)).append ?_
    exact (isWhole_phrase (by rfl) _).append (isWhole_name (isNameLike_genericName s) hk.endsName)
  type := by
    intro k hk
    have htext : (associate s).type.toList =
        "::std::collections::HashMap<".toList ++ (s.name.toList ++ (", ".toList ++
          ((genericName s).toList ++ ">".toList))) := by simp [associate]
    rw [htext]
    refine isWhole_applied hname (by rfl) (endsName_of_mark (by decide)) ?_
    refine (isWhole_phrase (by rfl) _).append ?_
    refine (isWhole_name (isNameLike_genericName s) (endsName_of_mark (by decide))).append ?_
    exact isWhole_phrase (by rfl) k
  body := by
    have hvalue : IsNameLike "value".toList := Name.isNameLike_of_isIdentifier (by rfl)
    have htransform : IsNameLike "transform".toList := Name.isNameLike_of_isIdentifier (by rfl)
    have hitem : IsNameLike (itemName s).toList := isNameLike_local hname _
    exact ⟨⟨isNameLike_tableName s, hitem, ⟨hvalue, htransform, hitem⟩, ⟨hitem, hvalue⟩, trivial⟩,
      trivial⟩

/-- `enumList` is readable. -/
theorem isReadable_enumList : (enumList s).IsReadable where
  name := by
    have henumList : IsNameLike "enumList".toList := Name.isNameLike_of_isIdentifier (by rfl)
    exact henumList
  generic := nofun
  binder := nofun
  type := by
    intro k hk
    have htext : (enumList s).type.toList =
        "::std::vec::Vec<".toList ++ (s.name.toList ++ ">".toList) := by simp [enumList]
    rw [htext]
    exact isWhole_applied hname (by rfl) (endsName_of_mark (by decide)) (isWhole_phrase (by rfl) k)
  body := ⟨isNameLike_tableName s, trivial⟩

/-- The table is readable. -/
theorem isReadable_table (hconstants : ∀ v ∈ s.constants, Name.isIdentifier v = true) :
    (table s).IsReadable where
  name := isNameLike_tableName s
  generic := nofun
  binder := nofun
  type := by
    intro k hk
    have hliteral := Grammar.isLiteral_repr s.constants.length
    have hstops : Stops (']' :: k) := by
      intro c hc
      obtain rfl := Option.some.inj hc
      decide
    have hlike := Name.isNameLike_of_isIdentifier hname
    have htext : (table s).type.toList = '[' :: ((s.name.toList ++ ("; ".toList ++
        (Nat.repr s.constants.length).toList)) ++ [']']) := by simp [table]
    rw [htext]
    refine IsWhole.group .bracket ?_ ?_
    · refine (isWhole_name hlike (endsName_of_mark (by decide))).append ?_
      exact (isWhole_phrase (by rfl) _).append (isWhole_literal hliteral hstops)
    · rw [List.append_assoc]
      exact hlike.slash_not_head _
  body := by
    have hlike := Name.isNameLike_of_isIdentifier hname
    exact ⟨⟨hlike, fun v hv => Name.isNameLike_of_isIdentifier (hconstants v hv)⟩, trivial⟩

end

/-! ### The members of a companion -/

/-- The line of a constant is whole. -/
theorem isWhole_constantLine {name : String} (h : Name.isIdentifier name = true) (k : List Char) :
    IsWhole (constantLine name).toList k := by
  have hstatic : IsWord "static".toList := ⟨'s', "tatic".toList, rfl, by decide,
    List.all_eq_true.mp (by rfl)⟩
  have hstops : Stops (";".toList ++ k) := by
    intro c hc
    obtain rfl := Option.some.inj hc
    decide
  have htext : (constantLine name).toList = "pub const ".toList ++
      ((Name.spelling name).toList ++ (": &".toList ++ (('\'' :: "static".toList) ++
        (" str = ".toList ++ ((Text.encode name).toList ++ ";".toList))))) := by
    simp [constantLine]
  rw [htext]
  refine (isWhole_phrase (by rfl) _).append ?_
  refine (Name.isWhole_spelling (Name.isNameLike_of_isIdentifier h)
    (endsName_of_mark (by decide))).append ?_
  refine (isWhole_phrase (by rfl) _).append ?_
  refine (isWhole_lifetime hstatic (endsName_of_mark (by decide))).append ?_
  refine (isWhole_phrase (by rfl) _).append ?_
  exact (isWhole_literal (isLiteral_encode name) hstops).append (isWhole_phrase (by rfl) k)

/-- What a line is indented by is whole. -/
theorem isWhole_indent (width : Nat) (k : List Char) :
    IsWhole (String.ofList (List.replicate width ' ')).toList k := by
  have hblank : isLexicalBlank ' ' = true := by rfl
  rw [String.toList_ofList]
  refine isWhole_blanks (fun c hc => ?_) k
  rw [List.eq_of_mem_replicate hc]
  exact hblank

/-- The lines of constants are whole. -/
theorem isWhole_constantLines (width : Nat) {names : List String}
    (h : ∀ n ∈ names, Name.isIdentifier n = true) (k : List Char) :
    IsWhole (constantLines width names).toList k := by
  induction names with
  | nil => exact isWhole_nil k
  | cons n names ih =>
    obtain ⟨hn, hnames⟩ := List.forall_mem_cons.mp h
    simp only [constantLines, String.toList_append, List.append_assoc]
    refine (isWhole_indent width _).append ((isWhole_constantLine hn _).append ?_)
    exact (isWhole_phrase (by rfl) _).append (ih hnames)

/-- The lines of readable functions are whole. -/
theorem isWhole_functionLines (width : Nat) {fs : List Function} (h : ∀ f ∈ fs, f.IsReadable)
    (atBlockStart : Bool) (k : List Char) :
    IsWhole (functionLines width atBlockStart fs).toList k := by
  induction fs generalizing atBlockStart with
  | nil => exact isWhole_nil k
  | cons f fs ih =>
    obtain ⟨hf, hfs⟩ := List.forall_mem_cons.mp h
    simp only [functionLines, String.toList_append, List.append_assoc]
    refine IsWhole.append ?_ ((Function.isWhole_block hf width _).append (ih hfs false))
    cases atBlockStart
    · exact isWhole_phrase (by rfl) _
    · exact isWhole_nil _

/-- The lines between the braces of a companion. -/
def Code.members (c : Code) (width : Nat) : String :=
  constantLines width c.constants ++ functionLines width c.constants.isEmpty c.functions

/-- The members of the companion of a summary are whole. -/
theorem isWhole_members {style : Style} {s : Summary} (hstyle : style.IsReadable)
    (h : s.defect? = none) (htypes : ∀ p ∈ s.parameters, IsSource p.type) (width : Nat)
    (k : List Char) : IsWhole ((code style s).members width).toList k := by
  have hnames := fun n hn => Summary.isIdentifier_of_isDeclarable
    ((s.defect?_eq_none_iff.mp h).2.2.1 n hn)
  have hname := hnames _ s.name_mem_names
  have hconstants := fun v hv => hnames v (Summary.mem_names_of_mem_constants hv)
  -- The lookups come first; the three functions that every companion has come after them.
  have hfunctions : ∀ f ∈ (code style s).functions, f.IsReadable := by
    intro f hf
    rcases List.mem_append.mp hf with hlookup | hother
    · obtain ⟨p, hp, rfl⟩ := List.mem_map.mp hlookup
      have hparameter := hnames _ (Summary.mem_names_of_mem_parameters hp)
      exact isReadable_lookup hname hstyle hparameter (htypes p hp)
    · simp only [List.mem_cons, List.not_mem_nil, or_false] at hother
      obtain rfl | rfl | rfl := hother
      · exact isReadable_associate hname
      · exact isReadable_enumList hname
      · exact isReadable_table hname hconstants
  rw [Code.members, String.toList_append]
  exact (isWhole_constantLines width hconstants _).append
    (isWhole_functionLines width hfunctions _ k)

end Companion

end EnumCompanion
