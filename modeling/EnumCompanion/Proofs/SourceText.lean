import EnumCompanion.Proofs.Grammar.Items
import EnumCompanion.Proofs.Token.Lexed
import EnumCompanion.Proofs.Token.Symbols
import EnumCompanion.SourceText

/-!
# `EnumCompanion.Proofs.SourceText`: types are read back from their line

A type is written on one line in standard spelling. The line keeps every
token, but spaces are set by what stands left and right of them, and so a
mark may get joined to the next one, or set apart from it. The type is
read back from the line exactly if it is the type of the tokens so
respaced; `lex?_line` and `readsBack_iff` say this of any text that is a
type.

The names, literals, delimiters and marks of the type are all on the line, each
of them a lexeme of its own (`line_keeps_symbols`).

There are types that are not read back. In `fn(a: ::b::C)` three colons
end up in a row, of which the first two are taken for one operator; and
`[u8; a >= b]` gets a space inside of `>=`.
-/

set_option autoImplicit false

namespace EnumCompanion.SourceText

open EnumCompanion.Token (AreClean respaced spelled)
open EnumCompanion.Grammar (TypeTree)

/-! ### Types and their lines -/

/-- The type that a text is, if it is one. -/
def typeTree? (text : String) : Option TypeTree :=
  (Token.lex? text).bind Grammar.type?

/-- The standard spelling of a text is the line of its type. -/
theorem type?_eq (text : String) :
    type? text = (typeTree? text).map fun t => spelled t.tokens :=
  rfl

/-- A type that is read back from its line; the line is then its own
standard spelling. -/
structure ReadsBack (t : TypeTree) : Prop where
  same : typeTree? (spelled t.tokens) = some t
  stable : type? (spelled t.tokens) = some (spelled t.tokens)

/-- A type has clean tokens. -/
theorem areClean_of_typeTree? {text : String} {t : TypeTree} (h : typeTree? text = some t) :
    AreClean t.tokens := by
  obtain ⟨ts, hlex, htype⟩ := Option.bind_eq_some_iff.mp h
  exact Grammar.areClean_of_type? (Token.lex?_areClean hlex) htype

/-- The line of a type is cut into lexemes with the symbols of the type: none is
lost, two are nowhere run together, none is taken apart, and no comment starts
on the line. -/
theorem line_keeps_symbols {text : String} {t : TypeTree} (h : typeTree? text = some t) :
    ∃ line us, type? text = some line ∧ Token.lex? line = some us ∧
      Token.symbols us = Token.symbols t.tokens ∧
      Token.Cut [] line.toList (Token.lexemesOf us) := by
  obtain ⟨us, hlex, hsymbols, hcut⟩ := Token.exists_recut (areClean_of_typeTree? h)
  refine ⟨spelled t.tokens, us, ?_, hlex, hsymbols, hcut⟩
  rw [type?_eq, h]
  rfl

/-- A lifetime beside a character, a raw name, and a slash in front of a star. -/
theorem slashStar_keeps_symbols :
    ∃ t, typeTree? "&'a m!('b' / * r#type)" = some t ∧
      Token.symbols t.tokens =
        [.mark '&', .lifetime (.plain "a"), .ident (.plain "m"), .mark '!', .opening .parenthesis,
          .literal "'b'", .mark '/', .mark '*', .ident ⟨true, "type"⟩, .closing .parenthesis] ∧
      ∃ line us, type? "&'a m!('b' / * r#type)" = some line ∧ Token.lex? line = some us ∧
        Token.symbols us = Token.symbols t.tokens ∧
        Token.Cut [] line.toList (Token.lexemesOf us) := by
  let group : List Token :=
    [.literal "'b'", .punct '/' .alone, .punct '*' .alone, .ident ⟨true, "type"⟩]
  let t : TypeTree :=
    ⟨[.punct '&' .alone, .punct '\'' .joint, .ident (.plain "a"), .ident (.plain "m"),
      .punct '!' .alone, .group .parenthesis group], .other⟩
  have hlex : Token.lex? "&'a m!('b' / * r#type)" = some (respaced t.tokens) := by rfl
  have htype : Grammar.type? (respaced t.tokens) = some t := by rfl
  have hread : typeTree? "&'a m!('b' / * r#type)" = some t := by
    rw [typeTree?, hlex, Option.bind_some]
    exact htype
  exact ⟨t, hread, by rfl, line_keeps_symbols hread⟩

/-- The line of a type is read as what its tokens are once they are
respaced. -/
theorem typeTree?_line {text : String} {t : TypeTree} (h : typeTree? text = some t) :
    typeTree? (spelled t.tokens) = Grammar.type? (respaced t.tokens) := by
  rw [typeTree?, Token.lex?_spelled (areClean_of_typeTree? h), Option.bind_some]

/-- The line of a type has all tokens of the type, but respaced. The type is
read back from it exactly if it is the type of the respaced tokens. -/
theorem readsBack_iff {text : String} {t : TypeTree} (h : typeTree? text = some t) :
    Token.lex? (spelled t.tokens) = some (respaced t.tokens) ∧
      Token.wordsOf (respaced t.tokens) = Token.wordsOf t.tokens ∧
      (ReadsBack t ↔ Grammar.type? (respaced t.tokens) = some t) := by
  have hline := typeTree?_line h
  refine ⟨Token.lex?_spelled (areClean_of_typeTree? h), Token.wordsOf_respaced t.tokens, ?_, ?_⟩
  · intro hback
    rw [← hline]
    exact hback.same
  · intro hsame
    rw [← hline] at hsame
    refine ⟨hsame, ?_⟩
    rw [type?_eq, hsame]
    rfl

/-- The type of references to texts is read back. -/
theorem staticText_readsBack :
    ∃ t, typeTree? "&'static str" = some t ∧ ReadsBack t := by
  let t : TypeTree :=
    ⟨[.punct '&' .alone, .punct '\'' .joint, .ident (.plain "static"), .ident (.plain "str")],
      .other⟩
  have hlex : Token.lex? "&'static str" = some (respaced t.tokens) := by rfl
  have htype : Grammar.type? (respaced t.tokens) = some t := by rfl
  have hread : typeTree? "&'static str" = some t := by
    rw [typeTree?, hlex, Option.bind_some]
    exact htype
  exact ⟨t, hread, (readsBack_iff hread).2.2.mpr htype⟩

/-- Not every type is read back: the colon behind a parameter and those in
front of its path are fused. -/
theorem fusedColons_not_readsBack :
    ∃ t, typeTree? "fn(a: ::b::C)" = some t ∧ spelled t.tokens = "fn(a:::b::C)" ∧
      typeTree? "fn(a:::b::C)" = none ∧ ¬ ReadsBack t := by
  let parameter : List Token :=
    [.ident (.plain "a"), .punct ':' .alone, .punct ':' .joint, .punct ':' .alone,
      .ident (.plain "b"), .punct ':' .joint, .punct ':' .alone, .ident (.plain "C")]
  let t : TypeTree := ⟨[.ident (.plain "fn"), .group .parenthesis parameter], .other⟩
  have hlex : Token.lex? "fn(a: ::b::C)" = some t.tokens := by rfl
  have htype : Grammar.type? t.tokens = some t := by rfl
  have hread : typeTree? "fn(a: ::b::C)" = some t := by
    rw [typeTree?, hlex, Option.bind_some]
    exact htype
  have hspelled : spelled t.tokens = "fn(a:::b::C)" := by rfl
  have hnone : typeTree? "fn(a:::b::C)" = none := by
    rw [← hspelled, typeTree?_line hread]
    rfl
  refine ⟨t, hread, hspelled, hnone, fun hback => ?_⟩
  have hsame := hback.same
  rw [hspelled, hnone] at hsame
  cases hsame

end EnumCompanion.SourceText
