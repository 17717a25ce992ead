import EnumCompanion.Name
import EnumCompanion.Proofs.Text.Canonical

/-!
# `EnumCompanion.Proofs.Name.Letters`: the characters of names

A name is written between marks: a colon, a bracket, a line end, the
hash of a raw spelling. What stands between them can be read back, as no
name holds a mark.

* `isWordChar_of_mem`: a name holds letters, digits and underscores only.
* `LeadsTo`: what is known of all letters that a case map leads to.
* `changeCase_cases`: the form of a character under a case map is the
  character, or holds such letters only. So no mark comes into a name when
  its first letter changes (`mark_not_mem_capitalize`).
* `spelling_injective`: two names with one spelling are the same.
-/

set_option autoImplicit false

namespace EnumCompanion.Name

open EnumCompanion.Text

/-! ### Characters of names -/

/-- A character that may stand in a name. -/
def isWordChar (c : Char) : Bool :=
  c == '_' || isAlphanumeric c

/-- Every character of a name may stand in one. -/
theorem isWordChar_of_mem {s : String} (h : isIdentifier s = true) {c : Char}
    (hc : c ∈ s.toList) : isWordChar c = true := by
  unfold isIdentifier at h
  cases hs : s.toList with
  | nil => rw [hs] at hc; cases hc
  | cons first rest =>
    rw [hs] at h hc
    simp only [Bool.and_eq_true, List.all_eq_true] at h
    obtain ⟨⟨hfirst, -⟩, hrest⟩ := h
    rcases List.mem_cons.mp hc with rfl | hmem
    · unfold isWordChar isAlphanumeric
      cases hu : c == '_' <;> simp_all
    · exact hrest c hmem

/-- A name has a first character. -/
theorem toList_ne_nil {s : String} (h : isIdentifier s = true) : s.toList ≠ [] := by
  intro hs
  rw [isIdentifier, hs] at h
  cases h

/-- The underscore alone is no name. -/
theorem ne_underscore {s : String} (h : isIdentifier s = true) : s ≠ "_" := by
  rintro rfl
  revert h
  decide

/-- The marks that stand beside names in the text of a companion. -/
def marks : List Char :=
  ['#', '\n', ' ', '"', '(', ')', ',', ':', ';', '<', '>']

/-- No mark may stand in a name. -/
theorem isWordChar_mark {c : Char} (h : c ∈ marks) : isWordChar c = false := by
  have all : marks.all (fun c => !isWordChar c) = true := by rfl
  simpa using List.all_eq_true.mp all c h

/-- A name holds no mark. -/
theorem mark_not_mem {s : String} (h : isIdentifier s = true) {c : Char} (hc : c ∈ marks) :
    c ∉ s.toList := by
  intro hmem
  have := isWordChar_of_mem h hmem
  rw [isWordChar_mark hc] at this
  cases this

/-! ### Case maps -/

/-- Whether a run of letters shifts to characters from `bound` on only. -/
def leadsPast (bound : Nat) (r : CaseRun) : Bool :=
  decide (bound ≤ r.first + r.shift) &&
    (decide (r.last + r.shift < 55296) ||
      decide (57343 < r.first + r.shift) && decide (r.last + r.shift < 1114112))

/-- Whether a listed form is of characters from `bound` on, at least one. -/
def liesPast (bound : Nat) (form : List Nat) : Bool :=
  !form.isEmpty && form.all fun n => decide (bound ≤ n) && decide n.isValidChar

/-- A shifted code point lies between those that the ends of the run shift
to. -/
theorem shift?_between {r : CaseRun} {c n : Nat} (hn : r.shift? c = some n) :
    (r.first + r.shift).toNat ≤ n ∧ n ≤ (r.last + r.shift).toNat := by
  unfold CaseRun.shift? at hn
  split at hn
  next hc =>
    have hshift := Option.some.inj hn
    omega
  next => cases hn

/-- A shifted code point is that of a character from `bound` on. -/
theorem shift?_le {bound : Nat} {r : CaseRun} (h : leadsPast bound r = true) {c n : Nat}
    (hn : r.shift? c = some n) : n.isValidChar ∧ bound ≤ n := by
  simp only [leadsPast, Bool.and_eq_true, Bool.or_eq_true, decide_eq_true_eq] at h
  obtain ⟨hfirst, hlast⟩ := shift?_between hn
  unfold Nat.isValidChar
  omega

/-- A case map whose forms hold characters with a property only. -/
structure LeadsTo (P : Nat → Prop) (runs : List CaseRun) (expansions : List (Nat × List Nat)) :
    Prop where
  shifts : ∀ r ∈ runs, ∀ c n, r.shift? c = some n → n.isValidChar ∧ P n
  nonempty : ∀ e ∈ expansions, e.2 ≠ []
  listed : ∀ e ∈ expansions, ∀ n ∈ e.2, n.isValidChar ∧ P n

/-- What is checked of the tables holds of the case map. -/
theorem leadsTo_past {bound : Nat} {runs : List CaseRun} {expansions : List (Nat × List Nat)}
    (h : runs.all (leadsPast bound) = true ∧ expansions.all (fun e => liesPast bound e.2) = true) :
    LeadsTo (bound ≤ ·) runs expansions := by
  have hform : ∀ e ∈ expansions, e.2 ≠ [] ∧ ∀ n ∈ e.2, bound ≤ n ∧ n.isValidChar := by
    intro e he
    have hpast := List.all_eq_true.mp h.2 e he
    simpa only [liesPast, Bool.and_eq_true, Bool.not_eq_true', List.isEmpty_eq_false_iff,
      List.all_eq_true, decide_eq_true_eq] using hpast
  exact {
    shifts := fun r hr c n hn => shift?_le (List.all_eq_true.mp h.1 r hr) hn
    nonempty := fun e he => (hform e he).1
    listed := fun e he n hn => ((hform e he).2 n hn).symm }

section CaseMap

variable {P : Nat → Prop} {runs : List CaseRun} {expansions : List (Nat × List Nat)}
  (hmap : LeadsTo P runs expansions)

include hmap

/-- A form under a case map is the character itself, or holds characters with
the property only. -/
theorem changeCase_cases (c : Char) :
    changeCase runs expansions c = [c] ∨
      changeCase runs expansions c ≠ [] ∧ ∀ d ∈ changeCase runs expansions c, P d.toNat := by
  unfold changeCase
  split
  next form hform =>
    right
    have hmem : (c.toNat, form) ∈ expansions := by
      obtain ⟨before, after, heq, -⟩ := List.lookup_eq_some_iff.mp hform
      rw [heq]
      simp
    refine ⟨fun hnil => hmap.nonempty _ hmem (List.map_eq_nil_iff.mp hnil), fun d hd => ?_⟩
    obtain ⟨n, hn, rfl⟩ := List.mem_map.mp hd
    obtain ⟨hvalid, hP⟩ := hmap.listed _ hmem n hn
    rwa [toNat_ofNat hvalid]
  next =>
    split
    next n hn =>
      right
      obtain ⟨r, hr, hshift⟩ := List.exists_of_findSome?_eq_some hn
      refine ⟨List.cons_ne_nil _ _, fun d hd => ?_⟩
      obtain ⟨hvalid, hP⟩ := hmap.shifts r hr _ n hshift
      rwa [List.mem_singleton.mp hd, toNat_ofNat hvalid]
    next => exact Or.inl rfl

/-- A form under a case map is not empty. -/
theorem changeCase_ne_nil (c : Char) : changeCase runs expansions c ≠ [] := by
  rcases changeCase_cases hmap c with h | h
  · rw [h]
    exact List.cons_ne_nil _ _
  · exact h.1

/-- A character of a form is the character itself, or one with the
property. -/
theorem mem_changeCase {c d : Char} (h : d ∈ changeCase runs expansions c) :
    d = c ∨ P d.toNat := by
  rcases changeCase_cases hmap c with hc | hc
  · rw [hc] at h
    exact Or.inl (List.mem_singleton.mp h)
  · exact Or.inr (hc.2 d h)

end CaseMap

/-! ### Capital and small forms -/

/-- Small letters lie past the underscore. -/
theorem small_past : LeadsTo (96 ≤ ·) smallRuns smallExpansions :=
  leadsTo_past (by decide +kernel)

/-- Capital letters lie past the marks. -/
theorem capital_past : LeadsTo (65 ≤ ·) capitalRuns capitalExpansions :=
  leadsTo_past (by decide +kernel)

/-- A character of a name with a first small letter is one of the name, or
lies past the underscore. -/
theorem mem_uncapitalize {s : String} {d : Char} (h : d ∈ (uncapitalize s).toList) :
    d ∈ s.toList ∨ 96 ≤ d.toNat := by
  unfold uncapitalize at h
  cases hs : s.toList with
  | nil => simp [hs] at h
  | cons first rest =>
    rw [hs, String.toList_ofList, List.mem_append] at h
    rcases h with hform | hrest
    · rcases mem_changeCase small_past hform with rfl | hle
      · exact Or.inl List.mem_cons_self
      · exact Or.inr hle
    · exact Or.inl (List.mem_cons_of_mem _ hrest)

/-- A character of a name with a first capital letter is one of the name, or
lies past the marks. -/
theorem mem_capitalize {s : String} {d : Char} (h : d ∈ (capitalize s).toList) :
    d ∈ s.toList ∨ 65 ≤ d.toNat := by
  unfold capitalize at h
  cases hs : s.toList with
  | nil => simp [hs] at h
  | cons first rest =>
    rw [hs, String.toList_ofList, List.mem_append] at h
    rcases h with hform | hrest
    · rcases mem_changeCase capital_past hform with rfl | hle
      · exact Or.inl List.mem_cons_self
      · exact Or.inr hle
    · exact Or.inl (List.mem_cons_of_mem _ hrest)

/-- The marks come before all letters. -/
theorem toNat_mark {c : Char} (h : c ∈ marks) : c.toNat < 65 := by
  have all : marks.all (fun c => decide (c.toNat < 65)) = true := by decide
  simpa using List.all_eq_true.mp all c h

/-- No mark is in a name with a first small letter. -/
theorem mark_not_mem_uncapitalize {s : String} (h : isIdentifier s = true) {c : Char}
    (hc : c ∈ marks) : c ∉ (uncapitalize s).toList := by
  intro hmem
  have hlt := toNat_mark hc
  rcases mem_uncapitalize hmem with hmem | hle
  · exact mark_not_mem h hc hmem
  · omega

/-- No mark is in a name with a first capital letter. -/
theorem mark_not_mem_capitalize {s : String} (h : isIdentifier s = true) {c : Char}
    (hc : c ∈ marks) : c ∉ (capitalize s).toList := by
  intro hmem
  have hlt := toNat_mark hc
  rcases mem_capitalize hmem with hmem | hle
  · exact mark_not_mem h hc hmem
  · omega

/-- A name in its small form is not empty. -/
theorem uncapitalize_ne_empty {s : String} (h : isIdentifier s = true) :
    uncapitalize s ≠ "" := by
  intro hu
  have hlist : (uncapitalize s).toList = [] := by rw [hu]; rfl
  unfold uncapitalize at hlist
  cases hs : s.toList with
  | nil => exact toList_ne_nil h hs
  | cons first rest =>
    rw [hs, String.toList_ofList, List.append_eq_nil_iff] at hlist
    exact changeCase_ne_nil small_past first hlist.1

/-- A name in its small form is not the underscore alone. -/
theorem uncapitalize_ne_underscore {s : String} (h : isIdentifier s = true) :
    uncapitalize s ≠ "_" := by
  intro hu
  have hlist : (uncapitalize s).toList = ['_'] := by rw [hu]; rfl
  unfold uncapitalize at hlist
  cases hs : s.toList with
  | nil => exact toList_ne_nil h hs
  | cons first rest =>
    rw [hs, String.toList_ofList] at hlist
    obtain ⟨d, tail, hform⟩ := List.exists_cons_of_ne_nil
      (changeCase_ne_nil small_past first)
    rw [smallForm, hform, List.cons_append, List.cons.injEq, List.append_eq_nil_iff] at hlist
    obtain ⟨rfl, -, rfl⟩ := hlist
    rcases mem_changeCase small_past (hform ▸ List.mem_cons_self) with rfl | hle
    · exact ne_underscore h (String.toList_inj.mp hs)
    · revert hle
      decide

/-! ### Spelling -/

/-- The spelling of a name that is no keyword is the name. -/
theorem spelling_of_not_isKeyword {s : String} (h : isKeyword s = false) : spelling s = s := by
  rw [spelling, h]
  rfl

/-- A spelling holds what the name holds, and the two characters in front of a raw
one. -/
theorem mem_spelling {s : String} {c : Char} (h : c ∈ (spelling s).toList) :
    c ∈ s.toList ∨ c = 'r' ∨ c = '#' := by
  unfold spelling at h
  split at h
  · have hraw : c = 'r' ∨ c = '#' ∨ c ∈ s.toList := by simpa using h
    rcases hraw with h | h | h
    · exact .inr (.inl h)
    · exact .inr (.inr h)
    · exact .inl h
  · exact .inl h

/-- Of the marks, the hash only may be in a spelling. -/
theorem mark_not_mem_spelling {s : String} (h : isIdentifier s = true) {c : Char}
    (hc : c ∈ marks) (hhash : c ≠ '#') : c ∉ (spelling s).toList := by
  intro hmem
  rcases mem_spelling hmem with hname | rfl | rfl
  · exact mark_not_mem h hc hname
  · revert hc
    decide
  · exact hhash rfl

/-- A raw spelling is no name. -/
theorem raw_ne {s t : String} (h : '#' ∉ t.toList) : "r#" ++ s ≠ t := by
  rintro rfl
  exact h (by simp)

/-- Two texts without a hash that are spelt alike are the same. -/
theorem spelling_injective {s t : String} (hs : '#' ∉ s.toList) (ht : '#' ∉ t.toList)
    (h : spelling s = spelling t) : s = t := by
  unfold spelling at h
  split at h <;> split at h
  · exact String.append_right_inj "r#" |>.mp h
  · exact absurd h (raw_ne ht)
  · exact absurd h.symm (raw_ne hs)
  · exact h

end EnumCompanion.Name
