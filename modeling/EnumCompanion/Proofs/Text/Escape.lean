import EnumCompanion.Text.Quoted

/-!
# `EnumCompanion.Proofs.Text.Escape`: quoted text is read back

`encodeBody` writes a text between quotes, `encodeCommentBody` does so for
the text of a comment, and `readCooked` reads what is between quotes. The
last undoes the other two, one character at a time.

* `readCooked_encodeChar`: an encoded character is read back.
* `readCooked_encodeBody` and `readCooked_encodeCommentBody`: so is an
  encoded text.
* `lineFeed_not_mem_encode`: an encoded text stands on one line.
-/

set_option autoImplicit false

namespace EnumCompanion.Text

/-! ### Digits of a code point -/

/-- A hexadecimal digit has its value, and is no mark of an escape. -/
theorem hexDigit?_digitChar {n : Nat} (h : n < 16) :
    hexDigit? n.digitChar = some n ∧ n.digitChar ≠ '_' ∧ n.digitChar ≠ '\x7d' := by
  have all : ∀ i : Fin 16, hexDigit? i.val.digitChar = some i.val ∧ i.val.digitChar ≠ '_' ∧
      i.val.digitChar ≠ '\x7d' := by decide
  exact all ⟨n, h⟩

/-- The digits of a code point are read as its value, whatever follows them,
if there is room for them. -/
theorem readCooked_pointDigits (n : Nat) {x : List Char} (hlength : (pointDigits n).length ≤ 6) :
    readCooked .text (.pointDigits 0 0) (pointDigits n ++ x) =
      readCooked .text (.pointDigits n (pointDigits n).length) x := by
  induction n using Nat.strongRecOn generalizing x with
  | ind n ih =>
    unfold pointDigits at hlength ⊢
    by_cases hn : n < 16
    · obtain ⟨hvalue, hgap, hbrace⟩ := hexDigit?_digitChar hn
      rw [Nat.toDigits_of_lt_base hn, List.singleton_append, readCooked]
      simp [CookedMode.reading, hvalue]
    · -- The last digit is read after those of the sixteenth part.
      have hdigits := Nat.toDigits_of_base_le (b := 16) (n := n) (by omega) (by omega)
      obtain ⟨hvalue, hgap, hbrace⟩ := hexDigit?_digitChar (n := n % 16) (by omega)
      rw [hdigits, List.length_append] at hlength
      have hfront := ih (n / 16) (by omega) (x := (n % 16).digitChar :: x)
        (Nat.le_of_succ_le hlength)
      have hroom : (Nat.toDigits 16 (n / 16)).length < 6 := hlength
      have hsum : 16 * (n / 16) + n % 16 = n := Nat.div_add_mod n 16
      unfold pointDigits at hfront
      rw [hdigits, List.append_assoc, List.singleton_append, hfront, readCooked]
      simp [CookedMode.reading, hvalue, hgap, hbrace, hroom, hsum]

/-- The digits of a code point are hexadecimal digits. -/
theorem isSome_hexDigit?_of_mem_pointDigits (n : Nat) :
    ∀ c ∈ pointDigits n, (hexDigit? c).isSome = true := by
  induction n using Nat.strongRecOn with
  | ind n ih =>
    unfold pointDigits at ih ⊢
    by_cases hn : n < 16
    · rw [Nat.toDigits_of_lt_base hn]
      simp [(hexDigit?_digitChar hn).1]
    · rw [Nat.toDigits_of_base_le (b := 16) (n := n) (by omega) (by omega)]
      intro c hc
      rcases List.mem_append.mp hc with hfront | hlast
      · exact ih (n / 16) (by omega) c hfront
      · obtain rfl := List.mem_singleton.mp hlast
        rw [(hexDigit?_digitChar (n := n % 16) (by omega)).1]
        rfl

/-! ### Encoded characters -/

/-- An escaped code point is read back. -/
theorem readCooked_point (c : Char) (x : List Char) :
    readCooked .text .plain (['\\', 'u', '\x7b'] ++ pointDigits c.toNat ++ '\x7d' :: x) =
      (readCooked .text .plain x).map fun (v, rest) => (c :: v, rest) := by
  have hvalid : c.toNat.isValidChar := c.valid
  have hlength : (pointDigits c.toNat).length ≤ 6 := by
    rw [pointDigits, Nat.length_toDigits_le_iff (by omega) (by omega)]
    rcases hvalid with h | h <;> omega
  have hne : (pointDigits c.toNat).length ≠ 0 := Nat.ne_of_gt Nat.length_toDigits_pos
  have hopening : readCooked .text .plain
      (['\\', 'u', '\x7b'] ++ pointDigits c.toNat ++ '\x7d' :: x) =
      readCooked .text (.pointDigits 0 0) (pointDigits c.toNat ++ '\x7d' :: x) := by
    simp [readCooked, CookedMode.reading]
  rw [hopening, readCooked_pointDigits _ hlength, readCooked]
  simp [CookedMode.reading, hne, Flavour.admitsPoint, hvalid, Char.ofNat_toNat]

/-- An encoded character is read back. -/
theorem readCooked_encodeChar (c : Char) (x : List Char) :
    readCooked .text .plain (encodeChar c ++ x) =
      (readCooked .text .plain x).map fun (v, rest) => (c :: v, rest) := by
  unfold encodeChar
  split
  next hzero =>
    obtain rfl : c = Char.ofNat 0 := by rw [← hzero, Char.ofNat_toNat]
    simp [readCooked, CookedMode.reading, Flavour.simpleEscape?]
  -- Five characters have an escape of their own.
  iterate 5
    split
    next hc => simp [readCooked, CookedMode.reading, Flavour.simpleEscape?, hc]
  split
  next => simp [readCooked, CookedMode.reading, Flavour.admits, *]
  next =>
    rw [List.append_assoc]
    exact readCooked_point c x

/-- A text is read back from between its quotes. -/
theorem readCooked_encodeBody (cs k : List Char) :
    readCooked .text .plain (encodeBody cs ++ '"' :: k) = some (cs, k) := by
  induction cs with
  | nil => simp [encodeBody, readCooked, CookedMode.reading]
  | cons c cs ih =>
    have hbody : encodeBody (c :: cs) = encodeChar c ++ encodeBody cs := rfl
    rw [hbody, List.append_assoc, readCooked_encodeChar, ih]
    rfl

/-- So is a comment's text, which is written in its own way. -/
theorem readCooked_encodeCommentBody (cs k : List Char) :
    readCooked .text .plain (encodeCommentBody cs ++ '"' :: k) = some (cs, k) := by
  induction cs with
  | nil => simp [encodeCommentBody, readCooked, CookedMode.reading]
  | cons c cs ih =>
    unfold encodeCommentBody
    split
    next hzero =>
      have hc : Char.ofNat 0 = c := by rw [← hzero.1, Char.ofNat_toNat]
      have hdigit : hexDigit? '0' = some 0 := by decide
      simp [readCooked, CookedMode.reading, Flavour.admitsByte, hdigit, ih, hc]
    next =>
      rw [List.append_assoc, readCooked_encodeChar, ih]
      rfl

/-! ### Line feeds -/

/-- An encoded character holds no line feed, which has an escape of its own. -/
theorem lineFeed_not_mem_encodeChar (c : Char) : '\n' ∉ encodeChar c := by
  have hdigits : '\n' ∉ pointDigits c.toNat := fun h => by
    have hdigit := isSome_hexDigit?_of_mem_pointDigits c.toNat '\n' h
    revert hdigit
    decide
  unfold encodeChar
  split
  next => decide
  iterate 3
    split
    next => decide
  next hfeed =>
    iterate 2
      split
      next => decide
    split
    next => simpa using Ne.symm hfeed
    next => simp [hdigits]

/-- A quoted text stands on one line. -/
theorem lineFeed_not_mem_encode (s : String) : '\n' ∉ (encode s).toList := by
  simp [encode, encodeBody, lineFeed_not_mem_encodeChar]

end EnumCompanion.Text
