import EnumCompanion.Proofs.Grammar.Sound

/-!
# `EnumCompanion.Proofs.Grammar.Running`: rules on tokens that are known

What a rule gives is known when the tokens are. Where only some of them
are, a rule can be followed as far as these go: a question about a token
that is there has an answer, and a group may be passed over whole.

This module follows the rule for items through a struct without fields and
through an `impl` block, both behind an attribute that allows something.
Of both the name is any name, and of the block the members are any tokens
that begin with a word.

* `run_bind`, `run_else` and their like: one step of a rule.
* `word_name`: where a name is ahead, no reserved word is.
* `type_name`: a name in front of a group is a type.
* `item_struct` and `item_impl`: the two items.
-/

set_option autoImplicit false

namespace EnumCompanion

open Grammar Rule

/-- A name is spelt like no reserved word. -/
theorem Ident.text_ne_of_isName {i : Ident} (hi : i.isName = true) {w : String}
    (hw : isReserved w = true) (hraw : '#' ∉ w.toList) : (i.text == w) = false := by
  rw [beq_eq_false_iff_ne]
  rintro rfl
  unfold Ident.isName at hi
  unfold Ident.text at hw hraw
  cases hr : i.raw with
  | true => simp [hr] at hraw
  | false => simp_all

namespace Grammar

/-! ### Steps -/

section

variable {α β : Type} {ts rest : List Token}

/-- A rule goes on from what its first part gives. -/
theorem run_bind {r : Rule α} {f : α → Rule β} {a : α} (h : r ts = some (a, rest)) :
    (r >>= f) ts = f a rest := by
  show (r ts).bind _ = _
  rw [h]
  rfl

/-- A rule goes on from the tokens ahead. -/
theorem run_get {f : List Token → Rule α} : ((get : Rule (List Token)) >>= f) ts = f ts ts := rfl

/-- A rule goes on from the answer to a question. -/
theorem run_sees {p : Ahead} {f : Bool → Rule α} {b : Bool} (h : p ts = b) :
    (sees p >>= f) ts = f b ts :=
  run_bind (by rw [sees, h])

theorem run_else {p : Ahead} {r r' : Rule α} (h : p ts = false) :
    (sees p >>= fun b => if b = true then r else r') ts = r' ts := by
  rw [run_sees h, if_neg Bool.false_ne_true]

theorem run_then {p : Ahead} {r r' : Rule α} (h : p ts = true) :
    (sees p >>= fun b => if b = true then r else r') ts = r ts := by
  rw [run_sees h, if_pos rfl]

/-- What a repetition gives: nothing where it stops, and otherwise what the
rule gives in front of what it gives then. -/
theorem repeatWithin_cases {stop : Ahead} {r : Rule α} {n : Nat} {found : List α}
    (h : repeatWithin stop r n ts = some (found, rest)) :
    (stop ts = true ∧ found = []) ∨
      stop ts = false ∧ ∃ m a middle more, r ts = some (a, middle) ∧
        repeatWithin stop r m middle = some (more, rest) ∧ found = a :: more := by
  cases n with
  | zero => cases h
  | succ n =>
    rw [repeatWithin] at h
    cases hstop : stop ts with
    | true =>
      rw [run_sees hstop] at h
      obtain ⟨rfl, -⟩ := Prod.mk.inj (Option.some.inj h)
      exact Or.inl ⟨rfl, rfl⟩
    | false =>
      rw [run_sees hstop] at h
      obtain ⟨a, middle, hr, hrest⟩ := bind_eq_some h
      obtain ⟨more, last, hmore, hlast⟩ := bind_eq_some hrest
      obtain ⟨rfl, rfl⟩ := Prod.mk.inj (Option.some.inj hlast)
      exact Or.inr ⟨rfl, n, a, middle, more, hr, hmore, rfl⟩

end

/-! ### A name in front of a group -/

section

variable (g : Rules) {i : Ident} (hi : i.isName = true) (us rest : List Token)

include hi

/-- Where a name is ahead, no reserved word is. -/
theorem word_name {w : String} (hw : isReserved w = true) (hraw : '#' ∉ w.toList) :
    Ahead.word w (.ident i :: rest) = false :=
  Ident.text_ne_of_isName hi hw hraw

theorem words_name {ws : List String}
    (hws : ws.all (fun w => isReserved w && !w.toList.contains '#') = true) :
    Ahead.words ws (.ident i :: rest) = false := by
  simp only [List.all_eq_true, Bool.and_eq_true, Bool.not_eq_true', ← Bool.not_eq_true,
    List.contains_iff_mem] at hws
  simp only [Ahead.words, Ahead.anyOf, List.any_map, List.any_eq_false, Function.comp_apply]
  intro w hw
  rw [word_name hi rest (hws w hw).1 (hws w hw).2]
  exact Bool.false_ne_true

/-- A name is read as one. -/
theorem run_name : Rule.name (.ident i :: rest) = some (i, rest) := by
  rw [Rule.name, if_pos hi]

/-- A name in front of a group has no arguments. -/
theorem segment_name :
    segment g false (.ident i :: .group .brace us :: rest) =
      some ((⟨i, .none⟩, [.ident i]), .group .brace us :: rest) := by
  unfold segment
  rw [run_else (words_name hi _ (by rfl)), run_sees (word_name hi _ (by rfl) (by decide))]
  simp only [Bool.false_eq_true, if_false]
  rw [run_bind (run_name hi _)]
  rfl

/-- It is a path. -/
theorem path_name :
    path g false (.ident i :: .group .brace us :: rest) =
      some (⟨false, [⟨i, .none⟩], [.ident i]⟩, .group .brace us :: rest) := by
  have hstart : optionalMark "::" (.ident i :: .group .brace us :: rest) =
      some ([], .ident i :: .group .brace us :: rest) := rfl
  have hsegments : segments g false Ahead.colonsName (.ident i :: .group .brace us :: rest) =
      some ([⟨(⟨i, .none⟩, [.ident i]), []⟩], .group .brace us :: rest) := by
    unfold segments chainUntil
    rw [run_get, chainWithin, run_else (by rfl), run_bind (segment_name g hi us rest)]
    rfl
  unfold path
  rw [run_bind hstart, run_bind hsegments]
  rfl

/-- And the path is a type. -/
theorem type_name :
    type g true (.ident i :: .group .brace us :: rest) =
      some (⟨[.ident i], .path ⟨false, [⟨i, .none⟩], [.ident i]⟩⟩, .group .brace us :: rest) := by
  have hbinder : optionalBinder g (.ident i :: .group .brace us :: rest) =
      some ([], .ident i :: .group .brace us :: rest) := by
    unfold optionalBinder whenever
    rw [run_else (word_name hi _ (by rfl) (by decide))]
    rfl
  have hahead : Ahead.anyOf [Ahead.pathName, Ahead.mark "::", Ahead.mark "<"]
      (.ident i :: .group .brace us :: rest) = true := by
    simp [Ahead.anyOf, Ahead.pathName, Ahead.name, hi]
  have hpath : qualifiedPath g false (.ident i :: .group .brace us :: rest) =
      some ((some ⟨false, [⟨i, .none⟩], [.ident i]⟩, [.ident i]), .group .brace us :: rest) := by
    unfold qualifiedPath
    rw [run_else (by rfl), run_bind (path_name g hi us rest)]
    rfl
  unfold type
  rw [run_bind hbinder]
  simp only [List.isEmpty_nil, Bool.not_true, Bool.false_eq_true, if_false]
  rw [run_else (by rfl), run_else (words_name hi _ (by rfl)), run_then hahead]
  unfold pathType
  rw [run_bind hpath]
  rfl

end

/-! ### Items behind an attribute -/

/-- The tokens of an attribute that allows something. -/
def lintTokens (lints : List Token) : List Token :=
  [.punct '#' .alone, .group .bracket [.ident (.plain "allow"), .group .parenthesis lints]]

/-- The attribute of these tokens. -/
def lint (lints : List Token) : Attribute :=
  ⟨false, false, [.plain "allow"], none, lintTokens lints⟩

section

variable (g : Rules)

/-- The attribute is read as one, and a word ends it. -/
theorem outerAttributes_lint (lints : List Token) (i : Ident) (rest : List Token) :
    outerAttributes g (lintTokens lints ++ .ident i :: rest) =
      some ([lint lints], .ident i :: rest) :=
  rfl

/-- No inner attributes are read from the body of a block that begins with a
word, and all of it is read. -/
theorem inside_word {j : Ident} {us rest after : List Token} {inner : List Attribute}
    {members : List (Option Method × List Token)}
    (h : Rule.inside .brace (do
        return (← innerAttributes g, ← repeatUntil Ahead.nothing (implMember g)))
      (.group .brace (.ident j :: us) :: rest) = some ((inner, members), after)) :
    after = rest ∧ inner = [] := by
  have hinner : innerAttributes g (.ident j :: us) = some ([], .ident j :: us) := rfl
  dsimp only [Rule.inside] at h
  rw [if_pos rfl, run_bind hinner] at h
  split at h
  next a hread =>
    obtain ⟨ms, left, -, hlast⟩ := bind_eq_some hread
    obtain ⟨rfl, -⟩ := Prod.mk.inj (Option.some.inj hlast)
    obtain ⟨hpair, rfl⟩ := Prod.mk.inj (Option.some.inj h)
    exact ⟨rfl, (Prod.mk.inj hpair).1.symm⟩
  next => cases h

variable {i : Ident} (hi : i.isName = true)

include hi

/-- A struct without fields is read as one, up to its semicolon. -/
theorem item_struct (lints rest : List Token) :
    ∃ head, item g (lintTokens lints ++ .ident (.plain "pub") :: .ident (.plain "struct") ::
        .ident i :: .punct ';' .alone :: rest) =
      some (.leaf [lint lints] (.plain .struct (some i)) head none, rest) := by
  have hvisible : visibility (.ident (.plain "pub") :: .ident (.plain "struct") :: .ident i ::
      .punct ';' .alone :: rest) = some ([.ident (.plain "pub")],
        .ident (.plain "struct") :: .ident i :: .punct ';' .alone :: rest) := rfl
  have hstruct : ∀ start attributes visible, itemBody g start attributes visible
      (.ident (.plain "struct") :: .ident i :: .punct ';' .alone :: rest) =
        structItem g attributes visible
          (.ident (.plain "struct") :: .ident i :: .punct ';' .alone :: rest) :=
    fun _ _ _ => rfl
  have hword : Rule.word "struct" (.ident (.plain "struct") :: .ident i ::
      .punct ';' .alone :: rest) =
        some ([.ident (.plain "struct")], .ident i :: .punct ';' .alone :: rest) := rfl
  unfold item
  rw [run_get, run_bind (outerAttributes_lint g lints _ _), run_bind hvisible, hstruct]
  unfold structItem
  rw [run_bind hword, run_bind (run_name hi _)]
  exact ⟨_, rfl⟩

omit hi in
/-- An `impl` block is told by its first word. -/
theorem item_eq_implItem (lints rest : List Token) :
    ∃ start, item g (lintTokens lints ++ .ident (.plain "impl") :: rest) =
      implItem g start [lint lints] [] (.ident (.plain "impl") :: rest) := by
  have hvisible : visibility (.ident (.plain "impl") :: rest) =
      some ([], .ident (.plain "impl") :: rest) := rfl
  unfold item
  rw [run_get, run_bind (outerAttributes_lint g lints _ _), run_bind hvisible]
  exact ⟨_, rfl⟩

/-- An `impl` block for a name is read as one, up to the end of its braces. It
has the attribute in front of it and no other. -/
theorem item_impl {n : Nat} {lints us rest after : List Token} {j : Ident} {found : Item}
    (h : item (grammar (n + 1)) (lintTokens lints ++ .ident (.plain "impl") :: .ident i ::
      .group .brace (.ident j :: us) :: rest) = some (found, after)) :
    after = rest ∧ ∃ block head body,
      found = .leaf [lint lints] (.implementation block) head (some body) := by
  obtain ⟨start, hitem⟩ := item_eq_implItem (grammar (n + 1)) lints
    (.ident i :: .group .brace (.ident j :: us) :: rest)
  rw [hitem] at h
  -- Behind the word `impl` stands the name, and behind the name the members.
  have hword : Rule.join [optionalWord "default", optionalWord "unsafe", Rule.word "impl"]
      (.ident (.plain "impl") :: .ident i :: .group .brace (.ident j :: us) :: rest) =
        some ([.ident (.plain "impl")], .ident i :: .group .brace (.ident j :: us) :: rest) := rfl
  have hgenerics : Ahead.generics (.ident i :: .group .brace (.ident j :: us) :: rest) = false :=
    rfl
  have hconstant : constantImpl (.ident i :: .group .brace (.ident j :: us) :: rest) =
      some ([], .ident i :: .group .brace (.ident j :: us) :: rest) := by
    have hconst := word_name hi (.group .brace (.ident j :: us) :: rest) (w := "const") (by rfl)
      (by decide)
    unfold constantImpl
    rw [run_else (by rw [hconst]; rfl)]
    rfl
  have hnegation : whenever ((Ahead.mark "!").but (Ahead.second (Ahead.group .brace)))
      (Rule.mark "!") (.ident i :: .group .brace (.ident j :: us) :: rest) =
        some ([], .ident i :: .group .brace (.ident j :: us) :: rest) := rfl
  have htype : (grammar (n + 1)).type true (.ident i :: .group .brace (.ident j :: us) :: rest) =
      some (⟨[.ident i], .path ⟨false, [⟨i, .none⟩], [.ident i]⟩⟩,
        .group .brace (.ident j :: us) :: rest) :=
    type_name (grammar n) hi (.ident j :: us) rest
  have hfor : Ahead.word "for" (.group .brace (.ident j :: us) :: rest) = false := rfl
  have hnotFor : optionalWord "for" (.group .brace (.ident j :: us) :: rest) =
      some ([], .group .brace (.ident j :: us) :: rest) := rfl
  have hconditions : optionalConditions (grammar (n + 1))
      (.group .brace (.ident j :: us) :: rest) =
        some ([], .group .brace (.ident j :: us) :: rest) := rfl
  unfold implItem at h
  simp only [run_bind hword, run_sees hgenerics, pure_bind, Bool.false_eq_true, if_false] at h
  simp only [run_bind hconstant, run_bind hnegation, run_bind htype, run_sees hfor] at h
  simp only [List.isEmpty_nil, Bool.not_true, Bool.and_false, Bool.false_and, Bool.or_false,
    Bool.false_eq_true, if_false, run_bind hnotFor, run_bind hconditions] at h
  obtain ⟨⟨inner, members⟩, middle, hbody, hlast⟩ := bind_eq_some h
  obtain ⟨rfl, rfl⟩ := inside_word _ hbody
  obtain ⟨rfl, rfl⟩ := Prod.mk.inj (Option.some.inj hlast)
  exact ⟨rfl, _, _, _, rfl⟩

end

end Grammar

end EnumCompanion
