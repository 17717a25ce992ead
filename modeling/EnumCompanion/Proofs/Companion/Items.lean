import EnumCompanion.Proofs.Companion.Whole
import EnumCompanion.Proofs.Grammar.Running
import EnumCompanion.SourceText

/-!
# `EnumCompanion.Proofs.Companion.Items`: the items of a companion

A companion is a struct and an `impl` block, each behind an attribute that
allows what the compiler would warn about. That it is read as nothing else
takes its members to be whole: the braces around them are the ones that
close the block.

* `exists_tokens_of_lex?`: the tokens of a companion.
* `items?_text`: its items.
-/

set_option autoImplicit false

namespace EnumCompanion

/-! ### Lines in front of the members -/

namespace Token

/-- A comment ends with its line. -/
theorem splitLine_lineFeed {cs k : List Char} (h : '\n' ∉ cs) :
    (splitLine (cs ++ '\n' :: k)).2 = '\n' :: k := by
  induction cs with
  | nil => rfl
  | cons c cs ih =>
    obtain ⟨hc, hcs⟩ := not_or.mp (List.mem_cons.not.mp h)
    unfold splitLine
    split <;> cases cs <;> simp_all

/-- The comment with the module path is passed over. -/
theorem readsAs_comment {cs k : List Char} (h : '\n' ∉ cs) :
    ReadsAs ("// ".toList ++ cs) ('\n' :: k) [] := by
  have hline : '\n' ∉ ' ' :: cs := by simpa using h
  have hcomment : comment? ('/' :: '/' :: ((' ' :: cs) ++ '\n' :: k)) =
      some (.plain (splitLine ((' ' :: cs) ++ '\n' :: k)).2) := rfl
  have hblank : isLexicalBlank '/' = false := by rfl
  refine lexesTo_of_next (by simp) ?_
  show nextLexemes? ('/' :: '/' :: ((' ' :: cs) ++ '\n' :: k)) = _
  rw [nextLexemes?, hblank, hcomment, splitLine_lineFeed hline]
  rfl

/-- The attribute that allows something. -/
theorem readsAs_lint {lints : String} (h : lints.toList.all isPlain = true) (k : List Char) :
    ∃ ts, ReadsAs ("#[allow(" ++ lints ++ ")]").toList k (Grammar.lintTokens ts) := by
  obtain ⟨ts, hts⟩ := isWhole_plain (k := ')' :: ']' :: k) (List.all_eq_true.mp h) fun _ _ _ =>
    endsName_of_mark (by decide)
  -- The text is read from the inside out, one group around the other.
  have hslash : (lints.toList ++ [')']).head? ≠ some '/' := by
    cases hlints : lints.toList with
    | nil => simp
    | cons c cs =>
      intro hhead
      obtain rfl := Option.some.inj hhead
      exact absurd (List.all_eq_true.mp h '/' (hlints ▸ List.mem_cons_self)) (by decide)
  have harguments : ReadsAs ('(' :: (lints.toList ++ [')'])) (']' :: k)
      [.group .parenthesis ts] := hts.group .parenthesis hslash
  have hallow : ReadsAs "allow".toList ('(' :: (lints.toList ++ [')']) ++ ']' :: k)
      [.ident (.plain "allow")] :=
    readsAs_name (Name.isNameLike_of_isIdentifier (by rfl)) (endsName_of_mark (by decide))
  have hbrackets : ReadsAs ('[' :: (("allow".toList ++ '(' :: (lints.toList ++ [')'])) ++ [']'])) k
      [.group .bracket [.ident (.plain "allow"), .group .parenthesis ts]] :=
    (hallow.append harguments).group .bracket (by simp)
  have hmark : ReadsAs ['#'] ('[' :: (("allow".toList ++ '(' :: (lints.toList ++ [')'])) ++ [']'])
      ++ k) [.punct '#' .alone] :=
    readsAs_mark (by rfl) (by decide) (by decide) (by rfl)
  have htext : ("#[allow(" ++ lints ++ ")]").toList =
      ['#'] ++ '[' :: (("allow".toList ++ '(' :: (lints.toList ++ [')'])) ++ [']']) := by simp
  refine ⟨ts, ?_⟩
  rw [htext]
  exact hmark.append hbrackets

/-- A name with a blank behind it. -/
theorem readsAs_spaced {s : String} (hs : IsNameLike s.toList) (k : List Char) :
    ReadsAs (s ++ " ").toList k [.ident (.plain s)] := by
  have hblank : isLexicalBlank ' ' = true := by rfl
  rw [String.toList_append]
  have hspace : ReadsAs " ".toList k [] := lexesTo_blank hblank k
  exact (readsAs_name hs (endsName_of_mark (by decide))).append hspace

/-- The end of a line. -/
theorem readsAs_lineFeed (k : List Char) : ReadsAs ['\n'] k [] := by
  have hfeed : isLexicalBlank '\n' = true := by rfl
  exact lexesTo_blank hfeed k

/-! ### Tokens of a text -/

/-- The token trees of a list of characters that is read as tokens are these. -/
theorem ReadsAs.eq_of_nest? {cs : List Char} {ts us : List Token} (h : ReadsAs cs [] ts)
    (hlex : (lexemes? cs).bind nest? = some us) : us = ts := by
  obtain ⟨ls, hls, hnest⟩ := Option.bind_eq_some_iff.mp hlex
  rw [lexemes?] at hls
  obtain ⟨m, rest, hrest, rfl⟩ := h _ ls (by rwa [List.append_nil])
  have hnil : rest = [] := by
    cases m <;> exact (Option.some.inj hrest).symm
  rw [hnil, List.append_nil, nest?_lexemesOf] at hnest
  exact (Option.some.inj hnest).symm

/-- The first token in a group is the one that its text begins with. -/
theorem ReadsAs.exists_cons {cs lead rest k : List Char} {us : List Token} {t : Token}
    (d : Delimiter) (h : ReadsAs cs (d.closing.toList ++ k) us) (hcs : cs = lead ++ rest)
    (hlead : LexesTo lead (rest ++ (d.closing.toList ++ k)) [.token t]) :
    ∃ us', ReadsAs cs (d.closing.toList ++ k) (t :: us') := by
  -- Where the lexer gets stuck, there is nothing that it reads.
  by_cases hthrough : ∃ n ls, lexemesWithin? n (cs ++ (d.closing.toList ++ k)) = some ls
  · obtain ⟨n, ls, hls⟩ := hthrough
    obtain ⟨m, behind, hbehind, hall⟩ := h n ls hls
    rw [hcs, List.append_assoc] at hls
    obtain ⟨-, more, -, hfirst⟩ := hlead n ls hls
    rw [hall] at hfirst
    cases us with
    | nil =>
      obtain ⟨-, last, -, hclosing⟩ := lexesTo_closing d k m behind hbehind
      rw [hclosing] at hfirst
      cases hfirst
    | cons u us =>
      have hu : u = t := by cases u <;> simp_all [lexemesOf, lexemesOne]
      exact ⟨us, hu ▸ h⟩
  · exact ⟨[], fun n ls hls => absurd ⟨n, ls, hls⟩ hthrough⟩

end Token

namespace Companion

open Token

/-! ### The tokens of a companion -/

/-- The tokens of a struct and of an `impl` block with one name, each behind
an attribute that allows something. -/
def companionTokens (lints more : List Token) (i : Ident) (members : List Token) : List Token :=
  Grammar.lintTokens lints ++ .ident (.plain "pub") :: .ident (.plain "struct") :: .ident i ::
    .punct ';' .alone :: (Grammar.lintTokens more ++ .ident (.plain "impl") :: .ident i ::
      [.group .brace members])

section

variable {name : String} (hname : IsNameLike name.toList)

include hname

/-- The struct is read as such. -/
theorem exists_readsAs_struct (k : List Char) :
    ∃ lints, ReadsAs (("#[allow(" ++ "non_camel_case_types" ++ ")]").toList ++ (['\n'] ++
        (("pub" ++ " ").toList ++ (("struct" ++ " ").toList ++ (name.toList ++ [';']))))) ('\n' :: k)
      (Grammar.lintTokens lints ++ [.ident (.plain "pub"), .ident (.plain "struct"),
        .ident (.plain name), .punct ';' .alone]) := by
  have hpub : IsNameLike "pub".toList := Name.isNameLike_of_isIdentifier (by rfl)
  have hstruct : IsNameLike "struct".toList := Name.isNameLike_of_isIdentifier (by rfl)
  have hsemicolon : ReadsAs [';'] ('\n' :: k) [.punct ';' .alone] :=
    readsAs_mark (by rfl) (by decide) (by decide) (by rfl)
  have hline := (readsAs_spaced hpub _).append ((readsAs_spaced hstruct _).append
    ((readsAs_name hname (endsName_of_mark (by decide))).append hsemicolon))
  exact (readsAs_lint (by rfl) _).imp fun lints hlints =>
    hlints.append ((readsAs_lineFeed _).append hline)

/-- So is the `impl` block, if its members are read as tokens. -/
theorem exists_readsAs_impl {text : List Char} {members : List Token}
    (hmembers : ReadsAs text ['\x7d', '\n'] members) :
    ∃ lints, ReadsAs (("#[allow(" ++
        "non_snake_case, non_upper_case_globals, dead_code, private_interfaces" ++ ")]").toList ++
        (['\n'] ++ (("impl" ++ " ").toList ++ ((name ++ " ").toList ++
          ('\x7b' :: (('\n' :: text) ++ ['\x7d']) ++ ['\n']))))) []
      (Grammar.lintTokens lints ++ [.ident (.plain "impl"), .ident (.plain name),
        .group .brace members]) := by
  have himpl : IsNameLike "impl".toList := Name.isNameLike_of_isIdentifier (by rfl)
  have hbraces : ReadsAs ('\x7b' :: (('\n' :: text) ++ ['\x7d'])) ['\n']
      [.group .brace members] :=
    ((readsAs_lineFeed _).append hmembers).group .brace (by simp)
  have hline := (readsAs_spaced himpl _).append ((readsAs_spaced hname _).append
    (hbraces.append (readsAs_lineFeed [])))
  exact (readsAs_lint (by rfl) _).imp fun lints hlints =>
    hlints.append ((readsAs_lineFeed _).append hline)

end

/-- The name of the companion of a summary without a defect. -/
theorem isNameLike_companionName {s : Summary} (h : s.defect? = none) :
    IsNameLike s.companionName.toList :=
  Name.isNameLike_companion (Summary.isIdentifier_of_isDeclarable
    ((s.defect?_eq_none_iff.mp h).2.2.1 _ s.name_mem_names))

/-- A companion is read as these tokens, if its members are read as some. -/
theorem exists_readsAs_text {style : Style} {s : Summary} (h : s.defect? = none) {width : Nat}
    {members : List Token}
    (hmembers : ReadsAs ((code style s).members width).toList ['\x7d', '\n'] members) :
    ∃ lints more, ReadsAs ((code style s).text width).toList []
      (companionTokens lints more (.plain s.companionName) members) := by
  have hname := isNameLike_companionName h
  have hscope : '\n' ∉ ("namespace " ++ s.scope).toList := by
    simpa using lineFeed_not_mem_scope h
  obtain ⟨more, hmore⟩ := exists_readsAs_impl hname hmembers
  obtain ⟨lints, hlints⟩ := exists_readsAs_struct hname _
  -- The comment, the struct and the block, with a blank line behind each of the first two.
  have hlines := (readsAs_comment hscope).append ((readsAs_lineFeed _).append
    ((readsAs_lineFeed _).append (hlints.append ((readsAs_lineFeed _).append
      ((readsAs_lineFeed _).append hmore)))))
  refine ⟨lints, more, ?_⟩
  convert hlines using 1
  · rw [Code.text_eq]
    simp [Code.preamble, Code.members, code]
  · simp [companionTokens]

/-- The members of a companion begin with the word `pub`, behind blanks. -/
theorem exists_lead_members (style : Style) (s : Summary) (width : Nat) :
    ∃ blanks rest, (∀ c ∈ blanks, isLexicalBlank c = true) ∧
      ((code style s).members width).toList = (blanks ++ "pub".toList) ++ ' ' :: rest := by
  have hblanks : ∀ lead : String, lead = "" ∨ lead = "\n" →
      ∀ c ∈ lead.toList ++ List.replicate width ' ', isLexicalBlank c = true := by
    have hfeed : isLexicalBlank '\n' = true := by rfl
    have hspace : isLexicalBlank ' ' = true := by rfl
    intro lead hlead c hc
    rcases List.mem_append.mp hc with hc | hc
    · rcases hlead with rfl | rfl
      · cases hc
      · rwa [List.mem_singleton.mp hc]
    · rwa [List.eq_of_mem_replicate hc]
  -- Without constants the first member is a function, with a blank line in front or none.
  cases hconstants : s.constants with
  | nil =>
    obtain ⟨blank, rest, hblank, hlines⟩ := beginsFunction style s width ""
    refine ⟨_, "fn ".toList ++ rest.toList, hblanks blank hblank, ?_⟩
    have hmembers : (code style s).members width =
        functionLines width s.constants.isEmpty (code style s).functions ++ "" := by
      simp [Code.members, code, hconstants, constantLines]
    rw [hmembers, hlines]
    simp
  | cons n ns =>
    refine ⟨_, ("const " ++ Name.spelling n ++ ": &'static str = " ++ Text.encode n ++ ";\n" ++
      constantLines width ns ++ functionLines width false (code style s).functions).toList,
      hblanks "" (Or.inl rfl), ?_⟩
    simp [Code.members, code, hconstants, constantLines, constantLine]

/-- No byte order mark stands in front of a companion. -/
theorem lex?_text (c : Code) (width : Nat) :
    lex? (c.text width) = (lexemes? (c.text width).toList).bind nest? := by
  have hmark : withoutOrderMark (c.text width).toList = (c.text width).toList := by
    rw [Code.text_eq, Code.preamble]
    simp [withoutOrderMark]
  rw [lex?, hmark]

/-- The tokens of a companion, if its text has any: those of a struct and of an
`impl` block, which begins with a word. -/
theorem exists_tokens_of_lex? {style : Style} {s : Summary} (hstyle : style.IsReadable)
    (h : s.defect? = none) (htypes : ∀ p ∈ s.parameters, IsSource p.type) {width : Nat}
    {ts : List Token} (hlex : lex? ((code style s).text width) = some ts) :
    ∃ lints more members, ts = companionTokens lints more (.plain s.companionName)
      (.ident (.plain "pub") :: members) := by
  obtain ⟨us, hus⟩ := isWhole_members hstyle h htypes width ['\x7d', '\n']
  obtain ⟨blanks, rest, hblanks, hlines⟩ := exists_lead_members style s width
  have hpub : IsNameLike "pub".toList := Name.isNameLike_of_isIdentifier (by rfl)
  have hlead : LexesTo (blanks ++ "pub".toList) ((' ' :: rest) ++ ['\x7d', '\n'])
      [.token (.ident (.plain "pub"))] :=
    (lexesTo_blanks hblanks _).append (lexesTo_name hpub (endsName_of_mark (by decide)))
  obtain ⟨members, hmembers⟩ := hus.exists_cons .brace hlines hlead
  obtain ⟨lints, more, htext⟩ := exists_readsAs_text h hmembers
  rw [lex?_text] at hlex
  exact ⟨lints, more, members, htext.eq_of_nest? hlex⟩

/-! ### The items of a companion -/

/-- The name of a companion is one: an underscore ends no keyword. -/
theorem isName_companion {name : String} (h : name ≠ "") :
    (Ident.plain (Name.companion name)).isName = true := by
  have hends : ∀ words : List String, words.all (·.toList.getLast? != some '_') = true →
      words.contains (Name.companion name) = false := by
    intro words hwords
    rw [← Bool.not_eq_true, List.contains_iff_mem]
    intro hmem
    have hlast := List.all_eq_true.mp hwords _ hmem
    simp [Name.companion] at hlast
  have hlone : (Name.companion name == "_") = false := by
    rw [beq_eq_false_iff_ne]
    intro heq
    have hlist := congrArg String.toList heq
    simp [Name.companion] at hlist
    exact h hlist
  have hpath : isPathKeyword (Name.companion name) = false := hends pathKeywords (by decide)
  have hkeyword : isKeyword (Name.companion name) = false := hends keywords (by decide)
  simp [Ident.isName, Ident.plain, isReserved, hlone, hpath, hkeyword]

open Grammar in
/-- The items that these tokens are, if they are any: the struct and the `impl`
block, each with the one attribute in front of it. -/
theorem items?_companionTokens {i j : Ident} (hi : i.isName = true)
    {lints more us : List Token} {items : List Item}
    (h : Grammar.items? (companionTokens lints more i (.ident j :: us)) = some items) :
    ∃ head block head' body,
      items = [.leaf [lint lints] (.plain .struct (some i)) head none,
        .leaf [lint more] (.implementation block) head' (some body)] := by
  obtain ⟨n, hn⟩ : ∃ n, rulesFor (companionTokens lints more i (.ident j :: us)) =
      grammar (n + 2) := ⟨_, rfl⟩
  have hinner : innerAttributes (grammar (n + 2))
      (companionTokens lints more i (.ident j :: us)) =
        some ([], companionTokens lints more i (.ident j :: us)) := rfl
  unfold Grammar.items? Rule.whole? at h
  rw [hn] at h
  dsimp only at h
  rw [run_bind hinner] at h
  split at h
  next found hread =>
    obtain rfl := Option.some.inj h
    -- Items are read as long as there are tokens: the struct, the block, and then none.
    obtain ⟨hstop, -⟩ | ⟨-, m, first, ts, found, hfirst, hrest, rfl⟩ := repeatWithin_cases hread
    · cases hstop
    obtain ⟨head, hstruct⟩ := item_struct (grammar (n + 1)) hi lints
      (lintTokens more ++ .ident (.plain "impl") :: .ident i :: [.group .brace (.ident j :: us)])
    obtain ⟨rfl, rfl⟩ := Prod.mk.inj (Option.some.inj (hstruct.symm.trans hfirst))
    obtain ⟨hstop, -⟩ | ⟨-, m', second, ts, found, hsecond, hlast, rfl⟩ := repeatWithin_cases hrest
    · cases hstop
    obtain ⟨rfl, block, head', body, rfl⟩ := item_impl hi hsecond
    obtain ⟨-, rfl⟩ | ⟨hgoesOn, -⟩ := repeatWithin_cases hlast
    · exact ⟨head, block, head', body, rfl⟩
    · cases hgoesOn
  next => cases h

/-- The items of a companion, if its text has any: a struct and an `impl`
block, neither with an attribute but the one that allows something. -/
theorem items?_text {style : Style} {s : Summary} (hstyle : style.IsReadable)
    (h : s.defect? = none) (htypes : ∀ p ∈ s.parameters, IsSource p.type) {width : Nat}
    {items : List Item} (hitems : SourceText.items? ((code style s).text width) = some items) :
    ∃ lints head more block head' body,
      items = [.leaf [Grammar.lint lints]
          (.plain .struct (some (.plain s.companionName))) head none,
        .leaf [Grammar.lint more] (.implementation block) head' (some body)] := by
  obtain ⟨ts, hlex, hread⟩ := Option.bind_eq_some_iff.mp hitems
  obtain ⟨lints, more, members, rfl⟩ := exists_tokens_of_lex? hstyle h htypes hlex
  have hname : s.name ≠ "" := by
    rintro hnil
    have hidentifier := Summary.isIdentifier_of_isDeclarable
      ((s.defect?_eq_none_iff.mp h).2.2.1 _ s.name_mem_names)
    rw [hnil] at hidentifier
    exact absurd hidentifier (by decide)
  obtain ⟨head, block, head', body, rfl⟩ := items?_companionTokens (isName_companion hname) hread
  exact ⟨lints, head, more, block, head', body, rfl⟩

end Companion

end EnumCompanion
