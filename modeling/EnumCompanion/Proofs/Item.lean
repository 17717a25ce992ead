import EnumCompanion.Item

/-!
# `EnumCompanion.Proofs.Item`: items as they are written

The tokens of an item hold all that it consists of. This module says in
which order, down to the items of the modules inside it, and that there is
no other way to write the item.

* `WrittenAs`: how an item is written, by recursion on the modules in it.
* `writtenAs_iff`: its tokens are the one way.
-/

set_option autoImplicit false

namespace EnumCompanion.Item

/-- The tokens of the attributes in front of an item, in order. -/
def outerTokens (attributes : List Attribute) : List Token :=
  (attributes.filter (!·.isInner)).flatMap Attribute.tokens

/-- The tokens of the attributes at the beginning of its body, in order. -/
def innerTokens (attributes : List Attribute) : List Token :=
  (attributes.filter (·.isInner)).flatMap Attribute.tokens

mutual

/-- How an item is written: the outer attributes, the head, and the body
between braces, if it has one, behind the inner attributes. -/
inductive WrittenAs : Item → List Token → Prop where
  /-- An item without a form stays as it was. -/
  | verbatim (ts : List Token) : WrittenAs (.verbatim ts) ts
  | bare (attributes : List Attribute) (form : Form) (head : List Token) :
      WrittenAs (.leaf attributes form head none) (outerTokens attributes ++ head)
  | withBody (attributes : List Attribute) (form : Form) (head body : List Token) :
      WrittenAs (.leaf attributes form head (some body))
        (outerTokens attributes ++ head ++ [.group .brace (innerTokens attributes ++ body)])
  /-- The body of a module is its items. -/
  | inlineModule {attributes : List Attribute} {name : Ident} {head : List Token}
      {items : List Item} {body : List Token} (hitems : AllWrittenAs items body) :
      WrittenAs (.inlineModule attributes name head items)
        (outerTokens attributes ++ head ++ [.group .brace (innerTokens attributes ++ body)])

/-- How items are written: one after the other. -/
inductive AllWrittenAs : List Item → List Token → Prop where
  | nil : AllWrittenAs [] []
  | cons {item : Item} {rest : List Item} {ts more : List Token} (hitem : WrittenAs item ts)
      (hrest : AllWrittenAs rest more) : AllWrittenAs (item :: rest) (ts ++ more)

end

/-- The tokens of an item without a body. -/
theorem assemble_none (attributes : List Attribute) (head : List Token) :
    assemble attributes head none = outerTokens attributes ++ head :=
  List.append_nil _

/-- The tokens of an item with a body. -/
theorem assemble_some (attributes : List Attribute) (head body : List Token) :
    assemble attributes head (some body) =
      outerTokens attributes ++ head ++ [.group .brace (innerTokens attributes ++ body)] :=
  rfl

mutual

/-- An item is written as its tokens. -/
theorem writtenAs_tokens : (item : Item) → WrittenAs item item.tokens
  | .verbatim ts => .verbatim ts
  | .leaf attributes form head none => by
    rw [tokens, assemble_none]
    exact .bare attributes form head
  | .leaf attributes form head (some body) => by
    rw [tokens, assemble_some]
    exact .withBody attributes form head body
  | .inlineModule attributes name head items => by
    rw [tokens, assemble_some]
    exact .inlineModule (allWrittenAs_tokensOf items)

/-- Items are written as their tokens. -/
theorem allWrittenAs_tokensOf : (items : List Item) → AllWrittenAs items (tokensOf items)
  | [] => .nil
  | item :: rest => .cons (writtenAs_tokens item) (allWrittenAs_tokensOf rest)

end

mutual

/-- An item is written in no other way. -/
theorem WrittenAs.eq_tokens {item : Item} {ts : List Token} : WrittenAs item ts → ts = item.tokens
  | .verbatim _ => rfl
  | .bare attributes form head => by
    rw [tokens, assemble_none]
  | .withBody attributes form head body => by
    rw [tokens, assemble_some]
  | .inlineModule hitems => by
    rw [tokens, assemble_some, hitems.eq_tokensOf]

/-- Items are written in no other way. -/
theorem AllWrittenAs.eq_tokensOf {items : List Item} {ts : List Token} :
    AllWrittenAs items ts → ts = tokensOf items
  | .nil => rfl
  | .cons hitem hrest => by
    rw [tokensOf, hitem.eq_tokens, hrest.eq_tokensOf]

end

/-- A module without attributes is written as its head, and its items between
braces. -/
theorem WrittenAs.exists_body {name : Ident} {head : List Token} {items : List Item}
    {ts : List Token} (h : WrittenAs (.inlineModule [] name head items) ts) :
    ∃ body, AllWrittenAs items body ∧ ts = head ++ Token.enclosed .brace body := by
  cases h with
  | inlineModule hitems => exact ⟨_, hitems, rfl⟩

/-- An item is written as its tokens, and only as them. -/
theorem writtenAs_iff {item : Item} {ts : List Token} : WrittenAs item ts ↔ ts = item.tokens :=
  ⟨WrittenAs.eq_tokens, fun h => h ▸ writtenAs_tokens item⟩

end EnumCompanion.Item
