import EnumCompanion.Text.Canonical

/-!
# `EnumCompanion.Proofs.Text.Canonical`: texts that share a canonical form

What the canonical form leaves alone, and when it tells two texts apart.

* `decompose_of_ascii` and `combiningClass_of_ascii`: a character of ASCII is
  only itself, and no mark.
* `orderMarks_perm`: marks change places, and nothing is lost.
* `canonical_append_left`: what is ASCII in front of a text stays there.
* `canonical_eq_iff`: a word of steady characters is the canonical form of no
  other text. `K` is not steady, as the sign for kelvin is a spelling of it.
-/

set_option autoImplicit false

namespace EnumCompanion.Text

/-! ### Characters of ASCII -/

/-- Whether all characters are of ASCII. -/
def IsAscii (cs : List Char) : Prop :=
  ∀ c ∈ cs, c.toNat < 128

instance (cs : List Char) : Decidable (IsAscii cs) :=
  List.decidableBAll (fun c : Char => c.toNat < 128) cs

/-- A property of all characters of ASCII is known from their code points. -/
theorem of_ascii {P : Char → Prop} (h : ∀ n < 128, P (Char.ofNat n)) {c : Char}
    (hc : c.toNat < 128) : P c := by
  have hn := h c.toNat hc
  rwa [Char.ofNat_toNat] at hn

/-- A character of ASCII falls into itself. -/
theorem decompose_of_ascii {c : Char} (hc : c.toNat < 128) : decompose c = [c] :=
  of_ascii (P := fun c => decompose c = [c]) (by decide +kernel) hc

/-- A character of ASCII is no mark. -/
theorem combiningClass_of_ascii {c : Char} (hc : c.toNat < 128) : combiningClass c = 0 :=
  of_ascii (P := fun c => combiningClass c = 0) (by decide +kernel) hc

/-- A text of ASCII does not fall apart. -/
theorem flatMap_decompose_of_ascii {cs : List Char} (h : IsAscii cs) :
    cs.flatMap decompose = cs := by
  induction cs with
  | nil => rfl
  | cons c rest ih =>
    rw [List.flatMap_cons, decompose_of_ascii (h c List.mem_cons_self),
      ih fun d hd => h d (List.mem_cons_of_mem c hd)]
    rfl

/-! ### Marks in order -/

/-- A mark changes places with others. -/
theorem insertMark_perm (c : Char) (cs : List Char) : (insertMark c cs).Perm (c :: cs) := by
  induction cs with
  | nil => exact .refl _
  | cons d rest ih =>
    unfold insertMark
    split
    · exact (ih.cons d).trans (.swap c d rest)
    · exact .refl _

/-- In order, a text has the same characters. -/
theorem orderMarks_perm (cs : List Char) : (orderMarks cs).Perm cs := by
  induction cs with
  | nil => exact .refl _
  | cons c rest ih => exact (insertMark_perm c (orderMarks rest)).trans (ih.cons c)

/-- What is no mark stays in front. -/
theorem insertMark_of_ascii {c : Char} (hc : c.toNat < 128) (cs : List Char) :
    insertMark c cs = c :: cs := by
  cases cs with
  | nil => rfl
  | cons d rest =>
    rw [insertMark, combiningClass_of_ascii hc, if_neg]
    omega

/-- What is ASCII in front of a text stays there. -/
theorem orderMarks_append_left {ds : List Char} (h : IsAscii ds) (cs : List Char) :
    orderMarks (ds ++ cs) = ds ++ orderMarks cs := by
  induction ds with
  | nil => rfl
  | cons d rest ih =>
    show insertMark d (orderMarks (rest ++ cs)) = d :: (rest ++ orderMarks cs)
    rw [ih fun e he => h e (List.mem_cons_of_mem d he),
      insertMark_of_ascii (h d List.mem_cons_self)]

/-! ### Canonical forms -/

/-- The canonical form as a list of characters. -/
theorem toList_canonical (s : String) :
    (canonical s).toList = orderMarks (s.toList.flatMap decompose) := by
  rw [canonical, String.toList_ofList]

/-- What is ASCII in front of a text stays as it is. -/
theorem canonical_append_left {w : String} (h : IsAscii w.toList) (s : String) :
    canonical (w ++ s) = w ++ canonical s := by
  apply String.toList_inj.mp
  rw [toList_canonical, String.toList_append, String.toList_append, toList_canonical,
    List.flatMap_append, flatMap_decompose_of_ascii h, orderMarks_append_left h]

/-- A text of ASCII is its own canonical form. -/
theorem canonical_of_ascii {w : String} (h : IsAscii w.toList) : canonical w = w := by
  have hw := canonical_append_left h ""
  rwa [String.append_empty, show canonical "" = "" by decide +kernel, String.append_empty] at hw

/-! ### Words with one spelling -/

/-- Whether a code point is that of a character of ASCII that has no other
spelling. -/
def isSteady (n : Nat) : Bool :=
  n < 128 && n != 59 && n != 75 && n != 96

/-- Whether all characters of a word are steady. -/
def IsSteady (cs : List Char) : Prop :=
  ∀ c ∈ cs, isSteady c.toNat = true

instance (cs : List Char) : Decidable (IsSteady cs) :=
  List.decidableBAll (fun c : Char => isSteady c.toNat = true) cs

/-- Steady characters are of ASCII. -/
theorem IsSteady.isAscii {cs : List Char} (h : IsSteady cs) : IsAscii cs := by
  intro c hc
  have hsteady := h c hc
  simp only [isSteady, Bool.and_eq_true, decide_eq_true_eq] at hsteady
  exact hsteady.1.1.1

/-- Whether a character that is not steady is among those of the given code
points. -/
def isApart (form : List Nat) : Bool :=
  form.any fun n => decide n.isValidChar && !isSteady n

/-- A listed form comes from its table. -/
theorem exists_of_findSome? {α : Type} {runs : List (FormRun α)} {c : Nat} {a : α}
    (h : runs.findSome? (·.form? c) = some a) : ∃ r ∈ runs, a ∈ r.forms := by
  obtain ⟨r, hr, hform⟩ := List.exists_of_findSome?_eq_some h
  refine ⟨r, hr, ?_⟩
  unfold FormRun.form? at hform
  split at hform
  · exact List.mem_of_getElem? hform
  · cases hform

/-- No listed character falls into steady ones. -/
theorem isApart_of_listed {c : Nat} {form : List Nat} (h : listed? c = some form) :
    isApart form = true := by
  have hsingles : canonicalSingles.all (fun r => r.forms.all fun n => isApart [n]) = true := by
    decide +kernel
  have hforms : canonicalForms.all (fun r => r.forms.all isApart) = true := by
    decide +kernel
  unfold listed? at h
  split at h
  next n hn =>
    cases h
    obtain ⟨r, hr, hmem⟩ := exists_of_findSome? hn
    exact List.all_eq_true.mp (List.all_eq_true.mp hsingles r hr) n hmem
  next =>
    obtain ⟨r, hr, hmem⟩ := exists_of_findSome? h
    exact List.all_eq_true.mp (List.all_eq_true.mp hforms r hr) form hmem

/-- No syllable falls into steady characters: the first consonant is none. -/
theorem isApart_of_syllable {c : Nat} {form : List Nat} (h : syllable? c = some form) :
    isApart form = true := by
  unfold syllable? at h
  split at h
  next hc =>
    have hfirst : (c - 44032) / 588 < 19 := by omega
    generalize (c - 44032) / 588 = first at h hfirst
    have hmem : 4352 + first ∈ form := Option.some.inj h ▸ List.mem_cons_self
    have hvalid : (4352 + first).isValidChar := .inl (by omega)
    have hsteady : isSteady (4352 + first) = false := by
      rw [isSteady, decide_eq_false (by omega), Bool.false_and, Bool.false_and, Bool.false_and]
    apply List.any_eq_true.mpr
    exact ⟨4352 + first, hmem, by rw [decide_eq_true hvalid, hsteady]; rfl⟩
  next => cases h

/-- The code point of the character of a valid code point. -/
theorem toNat_ofNat {n : Nat} (h : n.isValidChar) : (Char.ofNat n).toNat = n := by
  rw [Char.ofNat, dif_pos h]
  rfl

/-- A character that falls into steady ones is one itself. -/
theorem decompose_of_steady {c : Char} (h : IsSteady (decompose c)) : decompose c = [c] := by
  unfold decompose at h ⊢
  split at h
  next form hform =>
    have hapart : isApart form = true := by
      rcases Option.or_eq_some_iff.mp hform with hsyllable | ⟨-, hlisted⟩
      · exact isApart_of_syllable hsyllable
      · exact isApart_of_listed hlisted
    obtain ⟨n, hn, hboth⟩ := List.any_eq_true.mp hapart
    rw [Bool.and_eq_true, decide_eq_true_eq, Bool.not_eq_true'] at hboth
    have hsteady := h (Char.ofNat n) (List.mem_map_of_mem hn)
    rw [toNat_ofNat hboth.1, hboth.2] at hsteady
    cases hsteady
  next hform => rfl

/-- A word of steady characters is the canonical form of itself only. -/
theorem canonical_eq_iff {w : String} (h : IsSteady w.toList) {s : String} :
    canonical s = w ↔ s = w := by
  constructor
  · rintro rfl
    -- The characters of the form are those that the text falls into, in some order.
    have hparts : ∀ c ∈ s.toList, decompose c = [c] := by
      intro c hc
      apply decompose_of_steady
      intro d hd
      apply h d
      rw [toList_canonical, (orderMarks_perm _).mem_iff]
      exact List.mem_flatMap.mpr ⟨c, hc, hd⟩
    have hflat : s.toList.flatMap decompose = s.toList := by
      rw [List.flatMap_def, List.map_congr_left hparts, ← List.flatMap_def]
      exact List.flatMap_singleton' _
    have hsteady : IsSteady s.toList := by
      intro c hc
      apply h c
      rwa [toList_canonical, (orderMarks_perm _).mem_iff, hflat]
    exact (canonical_of_ascii hsteady.isAscii).symm
  · rintro rfl
    exact canonical_of_ascii h.isAscii

/-- The sign for kelvin is a spelling of `K`. -/
example : canonical "\u212A" = "K" := by decide +kernel

/-- A letter with two marks has one canonical form, however it is put
together. -/
example : canonical "\u1E69" = canonical "s\u0307\u0323" := by decide +kernel

end EnumCompanion.Text
