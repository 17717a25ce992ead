import EnumCompanion.Proofs.Name.Fresh
import EnumCompanion.Proofs.Name.Letters

/-!
# `EnumCompanion.Proofs.Name.Identifiers`: names read as identifiers

A name is read as the identifier that its spelling stands for. A keyword is
spelt raw and read back as itself, so what is left of a name is its canonical
form.

* `identifier_of_not_mem`: the identifier of a name is its canonical form.
* `identifier_eq_iff`: a name is read as a steady word only if it is that word.
* `ofSpelling_lookup`: lookups are told apart by the capital forms of their
  parameters.
* `identifier_fresh_ne`: a local name that avoids a name is another identifier,
  if both are written in one normal form.
-/

set_option autoImplicit false

namespace EnumCompanion.Name

open EnumCompanion.Text

/-! ### Spellings -/

/-- What does not begin with an `r` is no raw spelling. -/
theorem ofSpelling_of_head {s : String} (h : s.toList.head? ≠ some 'r') :
    ofSpelling s = canonical s := by
  unfold ofSpelling
  split
  · next rest hlist => exact absurd (by rw [hlist]; rfl) h
  · rfl

/-- A text without a hash is no raw spelling. -/
theorem ofSpelling_of_not_mem {s : String} (h : '#' ∉ s.toList) : ofSpelling s = canonical s := by
  unfold ofSpelling
  split
  · next rest hlist => exact absurd (by simp [hlist]) h
  · rfl

/-- A name without a hash is read as its canonical form. -/
theorem identifier_of_not_mem {s : String} (h : '#' ∉ s.toList) : identifier s = canonical s := by
  unfold identifier spelling
  split
  · have hlist : ("r#" ++ s).toList = 'r' :: '#' :: s.toList := by simp
    rw [ofSpelling, hlist]
    show canonical (String.ofList s.toList) = canonical s
    rw [String.ofList_toList]
  · exact ofSpelling_of_not_mem h

/-- A name without a hash is read as a steady word only if it is that word. -/
theorem identifier_eq_iff {w s : String} (hw : IsSteady w.toList) (h : '#' ∉ s.toList) :
    identifier s = w ↔ s = w := by
  rw [identifier_of_not_mem h, canonical_eq_iff hw]

/-- A text is read as one of some steady words only if it is one of them. -/
theorem contains_canonical {words : List String} (h : ∀ w ∈ words, IsSteady w.toList)
    (s : String) : words.contains (canonical s) = words.contains s := by
  rw [Bool.eq_iff_iff, List.contains_iff_mem, List.contains_iff_mem]
  constructor
  · intro hmem
    have heq : s = canonical s := (canonical_eq_iff (h _ hmem)).mp rfl
    rwa [← heq] at hmem
  · intro hmem
    have heq : canonical s = s := (canonical_eq_iff (h s hmem)).mpr rfl
    rwa [heq]

/-- No other word is read as a keyword that can be spelt raw. -/
theorem isKeyword_canonical (s : String) : isKeyword (canonical s) = isKeyword s :=
  contains_canonical (by decide +kernel) s

/-- No other word is read as a keyword that names a path. -/
theorem isPathKeyword_canonical (s : String) : isPathKeyword (canonical s) = isPathKeyword s :=
  contains_canonical (by decide +kernel) s

/-! ### Lookups -/

/-- A lookup is read as its word in front of the capital form of the parameter. -/
theorem ofSpelling_lookup (p : String) :
    ofSpelling (lookup p) = "from" ++ canonical (capitalize p) := by
  have hhead : (lookup p).toList.head? ≠ some 'r' := by simp [lookup]
  rw [ofSpelling_of_head hhead, lookup, canonical_append_left (by decide)]

/-- Two lookups are read as one identifier if and only if the capital forms of
their parameters are. -/
theorem ofSpelling_lookup_eq_iff {p q : String} :
    ofSpelling (lookup p) = ofSpelling (lookup q) ↔
      canonical (capitalize p) = canonical (capitalize q) := by
  rw [ofSpelling_lookup, ofSpelling_lookup]
  exact String.append_right_inj "from"

/-! ### Local names -/

/-- A local name made from a steady word is steady. -/
theorem isSteady_fresh {base : String} (h : IsSteady base.toList) (taken : List String) :
    IsSteady (fresh base taken).toList := by
  intro c hc
  rcases mem_fresh hc with hbase | rfl
  · exact h c hbase
  · rfl

/-- A local name made from a name has no hash. -/
theorem hash_not_mem_fresh {n : String} (h : isIdentifier n = true) (taken : List String) :
    '#' ∉ (fresh (uncapitalize n) taken).toList := by
  intro hmem
  rcases mem_fresh hmem with hbase | heq
  · exact mark_not_mem_uncapitalize h (by decide) hbase
  · cases heq

/-- A local name that avoids a name is another identifier, if both are written in
one normal form, such as the composed one. -/
theorem identifier_fresh_ne {normal : String → String}
    (hnormal : ∀ a b, canonical a = canonical b → normal a = normal b) {n other : String}
    {taken : List String} (hn : isIdentifier n = true) (hother : '#' ∉ other.toList)
    (hfresh : normal (fresh (uncapitalize n) taken) = fresh (uncapitalize n) taken)
    (hform : normal other = other) (hmem : other ∈ taken) :
    identifier (fresh (uncapitalize n) taken) ≠ identifier other := by
  rw [identifier_of_not_mem (hash_not_mem_fresh hn taken), identifier_of_not_mem hother]
  intro hsame
  have heq : fresh (uncapitalize n) taken = other := by
    rw [← hfresh, hnormal _ _ hsame, hform]
  exact fresh_not_mem _ _ (heq ▸ hmem)

end EnumCompanion.Name
