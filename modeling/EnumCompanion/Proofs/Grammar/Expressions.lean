import EnumCompanion.Proofs.Grammar.Types

/-!
# `EnumCompanion.Proofs.Grammar.Expressions`: the rules of expressions are sound

The rules for patterns, operators, expressions and statements read clean
tokens and give clean tokens, if the rules one level deeper do.

The operator `/` is read where a longer one may be ahead, so what is read
of it may hang; an operand follows, and `atom_proper` says that there is
always something to read for it. `operand_proper` closes that circle.
-/

set_option autoImplicit false

namespace EnumCompanion.Grammar

open EnumCompanion.Token
open Rule

variable {g : Rules} {start : List Token}

/-! ### Positions -/

@[grind .]
theorem isLiteral_repr (n : Nat) : IsLiteral (Nat.repr n) :=
  Or.inr fun _ hk => afterLiteral?_repr n hk

/-- A position is written in decimal, and so is a literal. -/
@[grind .]
theorem position_sound : Sound start position := by
  refine Proper.sound (proper_of_cons fun ts a rest hclean hrun => ?_)
  unfold position at hrun
  split at hrun
  next s us =>
    obtain ⟨n, -, hn⟩ := Option.map_eq_some_iff.mp hrun
    obtain ⟨rfl, rfl⟩ := Prod.mk.inj hn
    refine ⟨(areClean_literal_cons _ []).mpr ⟨isLiteral_repr n, trivial⟩, _, rfl, ?_⟩
    exact literal_not_hangs s
  next => cases hrun

@[grind .]
theorem areClean_fieldsAt (positions : List Nat) : AreClean (fieldsAt positions) := by
  refine areClean_flatMap fun n _ => areClean_append (by grind) ?_
  exact (areClean_literal_cons _ []).mpr ⟨isLiteral_repr n, trivial⟩

/-! ### Patterns -/

@[grind .]
theorem plainPattern_sound {r : Phrase} (h : Sound start r) : Sound start (plainPattern r) := by
  unfold plainPattern
  grind

@[grind .]
theorem alternatives_sound (h : AreSound g) : Sound start (alternatives g) := by
  have hmore : Sound start (join [mark "|", do return (← g.pattern).tokens]) := by grind
  unfold alternatives
  grind

@[grind .]
theorem alternativesPhrase_sound (h : AreSound g) : Sound start (alternativesPhrase g) := by
  unfold alternativesPhrase
  grind

/-- The points of a range are tokens. -/
theorem rangePoints_proper (allowOld : Bool) : Proper start (rangePoints allowOld) := by
  unfold rangePoints
  refine .whether ?_ (.whether ?_ ?_)
  · exact (mark_proper (by grind)).bind fun points hpoints => .pure ⟨trivial, hpoints⟩
  · refine .ite ?_ .failure
    exact (mark_proper (by grind)).bind fun points _ => .pure ⟨trivial, by grind⟩
  · exact (mark_proper (by grind)).bind fun points hpoints => .pure ⟨trivial, hpoints⟩

@[grind .]
theorem rangePoints_sound (allowOld : Bool) : Sound start (rangePoints allowOld) :=
  (rangePoints_proper allowOld).sound

@[grind .]
theorem rangeBound_sound (h : AreSound g) : Sound start (rangeBound g) := by
  unfold rangeBound
  grind

@[grind .]
theorem optionalRangeBound_sound (h : AreSound g) : Sound start (optionalRangeBound g) := by
  unfold optionalRangeBound
  grind

@[grind .]
theorem rangeFrom_sound (h : AreSound g) {first : List Token} (hfirst : AreClean first) :
    Sound start (rangeFrom g first) := by
  unfold rangeFrom
  refine .whether ?_ (by grind)
  refine .bind (by grind) fun ⟨isClosed, points⟩ ⟨_, hpoints⟩ => ?_
  grind

@[grind .]
theorem rangeTo_sound (h : AreSound g) : Sound start (rangeTo g) := by
  unfold rangeTo
  refine .bind (by grind) fun ⟨isClosed, points⟩ ⟨_, hpoints⟩ => ?_
  grind

@[grind .]
theorem fieldPattern_sound (h : AreSound g) : Sound start (fieldPattern g) := by
  unfold fieldPattern
  refine .get fun ts => .bind (by grind) fun box _ => .bind (by grind) fun modifiers _ => ?_
  refine .ite (.whether ?_ (by grind)) (by grind)
  grind

@[grind .]
theorem fieldPatterns_sound (h : AreSound g) : Sound start (fieldPatterns g) := by
  refine .count fun n => ?_
  induction n with
  | zero => exact .failure
  | succ n ih =>
    unfold fieldPatternsWithin
    refine .whether (by grind) (.bind (by grind) fun attributes hattributes => ?_)
    refine .whether (by grind) (.bind (by grind) fun field hfield => ?_)
    grind

@[grind .]
theorem pathPattern_sound (h : AreSound g) : Sound start (pathPattern g) := by
  unfold pathPattern
  refine .bind (by grind) fun ⟨path, tokens⟩ ⟨_, htokens⟩ => ?_
  grind

@[grind .]
theorem bindingPattern_sound (h : AreSound g) : Sound start (bindingPattern g) := by
  have hrest : Sound start (join [mark "@", do return (← g.pattern).tokens]) := by grind
  unfold bindingPattern
  refine .bind (by grind) fun first hfirst => .bind (sees_sound _) fun isSelf _ => ?_
  grind

@[grind .]
theorem bracketPattern_sound (h : AreSound g) : Sound start (bracketPattern g) := by
  unfold bracketPattern
  grind

@[grind .]
theorem boxPattern_sound (h : AreSound g) : Sound start (boxPattern g) := by
  unfold boxPattern
  grind

/-- A pattern is read from clean tokens and has clean tokens. -/
theorem pattern_sound (h : AreSound g) : Sound start (pattern g) := by
  unfold pattern
  iterate 8 refine .whether (by grind) ?_
  grind

/-! ### Operators -/

/-- An operator between operands is one of the grammar, or the single
slash. -/
theorem isOperator_of_operatorAhead? {ts : List Token} {m : String} {p : Precedence}
    (h : operatorAhead? ts = some (m, p)) : IsOperator m ∨ m = "/" := by
  have all : binaryOperators.all (fun e => longOperators.contains e.1 || e.1 == "/") = true := by
    decide
  have hm := List.all_eq_true.mp all _ (List.mem_of_find?_eq_some h)
  simp only [Bool.or_eq_true, List.contains_iff_mem, beq_iff_eq] at hm
  refine hm.imp_left fun hlong => ?_
  unfold IsOperator
  iterate 22 right
  exact hlong

@[grind .]
theorem extendWithin_sound (h : AreSound g) (allowStruct : Bool) (operator : Precedence) (n : Nat)
    {e : Expr} (he : tidy e) : Sound start (extendWithin g allowStruct operator n e) := by
  induction n generalizing start e with
  | zero => exact .failure
  | succ n ih =>
    unfold extendWithin
    grind

/-- The operand on the right of an operator is a token at least. -/
theorem rightOperand_proper (h : AreSound g) (allowStruct : Bool) (operator : Precedence) :
    Proper start (rightOperand g allowStruct operator) := by
  unfold rightOperand
  refine (h.operand start allowStruct).bind fun e he => ?_
  exact .count (f := fun n => extendWithin g allowStruct operator n e) fun n =>
    extendWithin_sound h allowStruct operator n he

@[grind .]
theorem rightOperand_sound (h : AreSound g) (allowStruct : Bool) (operator : Precedence) :
    Sound start (rightOperand g allowStruct operator) :=
  (rightOperand_proper h allowStruct operator).sound

/-- The points of a range and its upper bound are tokens. -/
theorem rangeEnd_proper (h : AreSound g) (allowStruct : Bool) :
    Proper start (rangeEnd g allowStruct) := by
  unfold rangeEnd
  refine (rangePoints_proper false).bind fun ⟨isClosed, points⟩ ⟨_, hpoints⟩ => ?_
  grind

@[grind .]
theorem rangeEnd_sound (h : AreSound g) (allowStruct : Bool) :
    Sound start (rangeEnd g allowStruct) :=
  (rangeEnd_proper h allowStruct).sound

@[grind .]
theorem cast_sound (h : AreSound g) : Sound start (cast g) := by
  unfold cast
  grind

/-- The rest of an expression is read from clean tokens and has clean
tokens. -/
theorem climb_sound (h : AreSound g) (allowStruct : Bool) {left : Expr} (floor : Precedence)
    (hleft : tidy left) : Sound start (climb g allowStruct left floor) := by
  refine .count (f := fun n => climbWithin g allowStruct floor n left) fun n => ?_
  induction n generalizing start left with
  | zero => exact .failure
  | succ n ih =>
    unfold climbWithin
    refine .get fun ts => .ite (by grind) ?_
    split
    next m p hoperator =>
      refine .ite (by grind) (.ite .failure ?_)
      -- The slash may hang, but the operand behind it does not.
      rcases isOperator_of_operatorAhead? hoperator with hm | rfl
      · refine .bind (mark_sound hm) fun operator hoperator => ?_
        grind
      · refine mark_bind_sound (by decide) (fun ts => rightOperand_proper h allowStruct p) ?_
        grind
    next =>
      refine .ite ?_ (.ite ?_ (.ite ?_ ?_))
      · refine .bind (by grind) fun operator hoperator => .bind (by grind) fun right hright => ?_
        grind
      · grind
      · grind
      · grind

/-! ### Literals of structs and arrays -/

@[grind .]
theorem plainExpr_sound {r : Phrase} (h : Sound start r) : Sound start (plainExpr r) := by
  unfold plainExpr
  grind

theorem plainExpr_proper {r : Phrase} (h : Proper start r) : Proper start (plainExpr r) :=
  h.bind fun _ hts => .pure hts

@[grind .]
theorem blockExpr_sound {r : Phrase} (h : Sound start r) : Sound start (blockExpr r) := by
  unfold blockExpr
  grind

theorem blockExpr_proper {r : Phrase} (h : Proper start r) : Proper start (blockExpr r) :=
  h.bind fun _ hts => .pure hts

@[grind .]
theorem exprPhrase_sound (h : AreSound g) : Sound start (exprPhrase g) := by
  unfold exprPhrase
  grind

@[grind .]
theorem headPhrase_sound (h : AreSound g) : Sound start (headPhrase g) := by
  unfold headPhrase
  grind

@[grind .]
theorem fieldValue_sound (h : AreSound g) : Sound start (fieldValue g) := by
  have hvalue : Sound start (join [mark ":", exprPhrase g]) := by grind
  unfold fieldValue
  grind

@[grind .]
theorem fieldValues_sound (h : AreSound g) : Sound start (fieldValues g) := by
  refine .count fun n => ?_
  induction n with
  | zero => exact .failure
  | succ n ih =>
    unfold fieldValuesWithin
    refine .whether (by grind) (.whether (by grind) ?_)
    grind

@[grind .]
theorem arrayContent_sound (h : AreSound g) : Sound start (arrayContent g) := by
  unfold arrayContent
  refine .whether (by grind) (.bind (by grind) fun first hfirst => .whether (by grind) ?_)
  grind

/-! ### Paths and closures -/

/-- An expression that starts with a path is a token at least. -/
theorem pathExpr_proper (h : AreSound g) (allowStruct : Bool) :
    Proper start (pathExpr g allowStruct) := by
  unfold pathExpr
  refine (qualifiedPath_proper h true).bind fun ⟨path, tokens⟩ ⟨_, htokens⟩ => ?_
  grind

@[grind .]
theorem closureParameter_sound (h : AreSound g) : Sound start (closureParameter g) := by
  unfold closureParameter
  refine .bind (by grind) fun attributes hattributes => .bind (h.pattern start) fun p hp => ?_
  grind

/-- A closure has the mark of its parameters. -/
theorem closure_proper (h : AreSound g) (allowStruct : Bool) :
    Proper start (closure g allowStruct) := by
  unfold closure
  have hfirst : Proper start (join [optionalBinder g, optionalWord "const", optionalWord "static",
      optionalWord "async", optionalWord "move", mark "|"]) := by
    refine join_tail_proper (optionalBinder_sound h) ?_
    iterate 4 refine join_tail_proper (optionalWord_sound _) ?_
    exact join_cons_proper (mark_proper (by grind)) join_nil_sound
  refine hfirst.bind fun first hfirst => .bind (by grind) fun parameters hparameters => ?_
  refine .bind (by grind) fun finish hfinish => ?_
  grind

/-! ### Expressions with blocks -/

theorem conditional_proper (h : AreSound g) : Proper start (conditional g) := by
  refine .count fun n => ?_
  induction n with
  | zero => exact .failure
  | succ n ih =>
    have hmore := ih.sound
    unfold conditionalWithin
    refine (join_cons_proper (word_proper _) (by grind)).bind fun first hfirst => ?_
    grind

theorem whileLoop_proper (h : AreSound g) : Proper start (whileLoop g) := by
  unfold whileLoop
  exact join_cons_proper (word_proper _) (by grind)

theorem forLoop_proper (h : AreSound g) : Proper start (forLoop g) := by
  unfold forLoop
  exact join_cons_proper (word_proper _) (by grind)

theorem endlessLoop_proper (h : AreSound g) : Proper start (endlessLoop g) := by
  unfold endlessLoop
  exact join_cons_proper (word_proper _) (by grind)

theorem labelled_proper (h : AreSound g) : Proper start (labelled g) := by
  have hwhile : Sound start (whileLoop g) := (whileLoop_proper h).sound
  have hfor : Sound start (forLoop g) := (forLoop_proper h).sound
  have hloop : Sound start (endlessLoop g) := (endlessLoop_proper h).sound
  unfold labelled
  refine (join_cons_proper lifetime_proper (by grind)).bind fun label hlabel => ?_
  extract_lets next
  have hnext : ∀ body, AreClean body → Sound start (next body) :=
    fun body hbody => .pure (areClean_append hlabel hbody)
  clear_value next
  grind

/-! ### Jumps -/

@[grind .]
theorem jumpValue_sound (h : AreSound g) : Sound start (jumpValue g) := by
  unfold jumpValue
  grind

theorem breakExpr_proper (h : AreSound g) (allowStruct : Bool) :
    Proper start (breakExpr g allowStruct) := by
  unfold breakExpr
  refine (word_proper _).bind fun first hfirst => .bind (by grind) fun label hlabel => ?_
  refine .bind (sees_sound _) fun isLabelled _ => ?_
  grind

theorem becomeExpr_proper (h : AreSound g) : Proper start (becomeExpr g) := by
  unfold becomeExpr
  refine .get fun ts => (join_cons_proper (word_proper _) (by grind)).bind fun _ _ => ?_
  grind

theorem letExpr_proper (h : AreSound g) (allowStruct : Bool) :
    Proper start (letExpr g allowStruct) := by
  unfold letExpr
  refine (join_cons_proper (word_proper _) (by grind)).bind fun first hfirst => ?_
  grind

theorem builtinExpr_proper : Proper start builtinExpr := by
  unfold builtinExpr
  refine .get fun ts => (join_cons_proper (word_proper _) (by grind)).bind fun _ _ => ?_
  grind

/-! ### Behind an atom -/

@[grind .]
theorem memberBehind_sound (h : AreSound g) : Sound start (memberBehind g) := by
  unfold memberBehind
  extract_lets point
  have hpoint : AreClean point := areClean_operator (by grind)
  clear_value point
  refine .whether (by grind) (.whether ?_ (by grind))
  refine .bind (by grind) fun member hmember => .bind (by grind) fun arguments harguments => ?_
  refine .bind (sees_sound _) fun isCall _ => ?_
  grind

@[grind .]
theorem members_sound (h : AreSound g) : Sound start (members g) := by
  unfold members
  refine .bind (by grind) fun _ _ => .get fun ts => ?_
  split
  next spelling _ =>
    refine .bind literal_sound fun _ _ => ?_
    grind
  next => grind

@[grind .]
theorem suffix?_sound (h : AreSound g) (e : Expr) : Sound start (suffix? g e) := by
  unfold suffix?
  refine .whether (by grind) (.bind (sees_sound _) fun isMember _ => ?_)
  grind

@[grind .]
theorem suffixes_sound (h : AreSound g) {e : Expr} (he : tidy e) : Sound start (suffixes g e) := by
  refine .count (f := fun n => suffixesWithin g n e) fun n => ?_
  induction n generalizing e with
  | zero => exact .failure
  | succ n ih =>
    unfold suffixesWithin
    grind

/-! ### Atoms -/

theorem tryBlock_proper (h : AreSound g) : Proper start (tryBlock g) := by
  unfold tryBlock
  exact join_cons_proper (word_proper _) (by grind)

@[grind .]
theorem tryBlock_sound (h : AreSound g) : Sound start (tryBlock g) := (tryBlock_proper h).sound

@[grind .]
theorem matchArm_sound (h : AreSound g) : Sound start (matchArm g) := by
  have hguard : Sound start (join [word "if", exprPhrase g]) := by grind
  unfold matchArm
  refine .bind (by grind) fun first hfirst => .bind (h.bounded start) fun body hbody => ?_
  grind

theorem matchExpr_proper (h : AreSound g) : Proper start (matchExpr g) := by
  have harms : ∀ ts, Sound ts (join [inner g, allUntil Ahead.nothing (matchArm g)]) := by grind
  unfold matchExpr
  exact join_cons_proper (word_proper _) (by grind)

/-- What starts like a block is a token at least, if it is there. -/
theorem blockLike?_starts (h : AreSound g) : Starts start (blockLike? g) := by
  have hblock : ∀ w, Proper start (join [Rule.word w, attributedBlock g]) :=
    fun w => join_cons_proper (word_proper w) (by grind)
  unfold blockLike?
  refine .whether (.some (blockExpr_proper (conditional_proper h))) ?_
  refine .whether (.some (blockExpr_proper (whileLoop_proper h))) ?_
  refine .whether (.some (blockExpr_proper (forLoop_proper h))) ?_
  refine .whether (.some (blockExpr_proper (endlessLoop_proper h))) ?_
  refine .whether (.some (blockExpr_proper (matchExpr_proper h))) ?_
  refine .whether (.some (blockExpr_proper (tryBlock_proper h))) ?_
  refine .whether (.some (blockExpr_proper (hblock _))) ?_
  refine .whether (.some (blockExpr_proper (hblock _))) ?_
  refine .whether (.some (blockExpr_proper (enclosed_proper (by grind)))) ?_
  exact .whether (.some (labelled_proper h)) .none

@[grind .]
theorem blockLike?_sound (h : AreSound g) : Sound start (blockLike? g) :=
  (blockLike?_starts h).sound

/-- An expression without operators is a token at least. -/
theorem atom_proper (h : AreSound g) (allowStruct : Bool) : Proper start (atom g allowStruct) := by
  unfold atom
  refine .whether (plainExpr_proper literal_proper) (.whether (plainExpr_proper ?_) ?_)
  · exact join_cons_proper (word_proper _) (by grind)
  refine .whether (blockExpr_proper (tryBlock_proper h)) ?_
  refine .whether (plainExpr_proper (closure_proper h allowStruct)) (.whether builtinExpr_proper ?_)
  refine .whether (pathExpr_proper h allowStruct) (.whether (plainExpr_proper ?_) ?_)
  · exact enclosed_proper (by grind)
  refine .whether (plainExpr_proper (breakExpr_proper h allowStruct)) ?_
  refine .whether (plainExpr_proper ?_) (.whether (plainExpr_proper ?_) ?_)
  · exact join_cons_proper (word_proper _) (by grind)
  · exact join_cons_proper (word_proper _) (by grind)
  refine .whether (becomeExpr_proper h) (.whether (plainExpr_proper ?_) ?_)
  · exact enclosed_proper (by grind)
  refine .whether (plainExpr_proper (letExpr_proper h allowStruct)) ?_
  refine .whether (plainExpr_proper ?_) (.whether ?_ ?_)
  · exact join_cons_proper (word_proper _) (by grind)
  · exact (rangeEnd_proper h allowStruct).bind fun ts hts => .pure hts
  refine .whether (plainExpr_proper (word_proper _)) ?_
  exact (blockLike?_starts h).bind .failure fun e he => .pure he

@[grind .]
theorem atom_sound (h : AreSound g) (allowStruct : Bool) : Sound start (atom g allowStruct) :=
  (atom_proper h allowStruct).sound

/-! ### Operands -/

theorem borrow_proper : Proper start borrow := by
  unfold borrow
  refine (mark_proper (by grind)).bind fun first hfirst => .bind (sees_sound _) fun isRaw _ => ?_
  grind

theorem attributedAtom_proper (h : AreSound g) {attributes : List Token}
    (hattributes : AreClean attributes) (allowStruct : Bool) :
    Proper start (attributedAtom g start attributes allowStruct) := by
  unfold attributedAtom
  refine (atom_proper h allowStruct).bind fun e he => .bind (suffixes_sound h he) fun e he => ?_
  grind

/-- An operand is a token at least. -/
theorem operand_proper (h : AreSound g) (allowStruct : Bool) :
    Proper start (operand g allowStruct) := by
  unfold operand
  refine .get fun ts => .after (outer_sound h) fun attributes hattributes => .whether ?_ ?_
  · refine borrow_proper.bind fun operator hoperator => ?_
    grind
  refine .whether ?_ (attributedAtom_proper h hattributes allowStruct)
  extract_lets next
  have hnext : ∀ operator, tidy operator → Sound ts (next operator) := by
    intro operator hoperator
    refine .bind (operand_sound h allowStruct) fun e he => .pure ?_
    exact areClean_append (areClean_append hattributes hoperator) he
  clear_value next
  refine .after (sees_sound _) fun isStar _ => .after (sees_sound _) fun isBang _ => ?_
  refine .ite ?_ (.ite ?_ ?_)
  · exact (mark_proper (by grind)).bind hnext
  · exact (mark_proper (by grind)).bind hnext
  · exact (mark_proper (by grind)).bind hnext

/-- An expression is read from clean tokens and has clean tokens. -/
theorem expression_sound (h : AreSound g) (allowStruct : Bool) :
    Sound start (expression g allowStruct) := by
  unfold expression
  grind

/-! ### Expressions that end early -/

@[grind .]
theorem tidy_withAttributes {attributes : List Token} {e : Expr} (hattributes : AreClean attributes)
    (he : tidy e) : tidy (withAttributes attributes e) := by
  unfold withAttributes
  split
  · exact he
  · exact areClean_append hattributes he

theorem bounded_sound (h : AreSound g) : Sound start (bounded g) := by
  unfold bounded
  grind

/-! ### Statements -/

instance : Tidy Statement := ⟨fun s => AreClean s.tokens⟩

@[grind =]
theorem tidy_statement (s : Statement) : tidy s = AreClean s.tokens := rfl

@[grind .]
theorem binding_sound (h : AreSound g) : Sound start (binding g) := by
  have htype : Sound start (join [mark ":", typePhrase g true]) := by grind
  have helse : Sound start (join [Rule.word "else", block g]) := by grind
  unfold binding
  refine .bind (by grind) fun first hfirst => .bind (sees_sound _) fun hasValue _ => ?_
  extract_lets next
  have hnext : ∀ value, AreClean value → Sound start (next value) := by
    intro value hvalue
    refine .bind (by grind) fun last hlast => ?_
    grind
  clear_value next
  refine .ite (.bind (by grind) fun eq heq => .bind (by grind) fun e he => ?_) (by grind)
  grind

@[grind .]
theorem expressionStatement_sound (h : AreSound g) {attributes : List Token}
    (hattributes : AreClean attributes) : Sound start (expressionStatement g attributes) := by
  unfold expressionStatement
  refine .bind (h.bounded start) fun e he => .bind (by grind) fun semicolon hsemicolon => .pure ?_
  exact areClean_append (tidy_withAttributes hattributes he) hsemicolon

/-- A statement that turns out to be an item is read again from its
beginning. -/
@[grind .]
theorem statement_sound (h : AreSound g) : Sound start (statement g) := by
  unfold statement
  refine .of_ends fun ts => .bind (by grind) fun attributes hattributes => ?_
  refine .whether (Sound.ends ?_) (.whether (Sound.ends ?_) (.whether ?_ (Sound.ends ?_)))
  · grind
  · grind
  · refine .set fun _ => ⟨Reads.refl ts, .bind (h.item ts) fun item hitem => ?_⟩
    exact .pure hitem
  · exact expressionStatement_sound h hattributes

/-- Statements are read from clean tokens and have clean tokens. -/
theorem statements_sound (h : AreSound g) : Sound start (statements g) := by
  refine .count fun n => ?_
  induction n with
  | zero => exact .failure
  | succ n ih =>
    unfold statementsWithin
    refine .bind (by grind) fun semicolons hsemicolons => .whether (by grind) ?_
    refine .bind (by grind) fun s hs => .whether (by grind) ?_
    grind

end EnumCompanion.Grammar
