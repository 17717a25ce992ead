import EnumCompanion.Proofs.Token.Word

/-!
# `EnumCompanion.Proofs.Token.LiteralEnd`: where a literal ends

A literal that the lexer takes from a text ends where it ends in that text
and in any other in which something else follows, as long as this goes on
neither a number nor a suffix. So a literal is read back when it is written
down with a stop behind it.

* `readCooked_local` and `readRaw_local`: a string ends at its quote.
* `EndsAt`: what ends at its last characters, or at a suffix behind them,
  before any stop.
* `afterString?_endsAt` and `afterCharacter?_endsAt`: strings, characters
  and bytes do.
-/

set_option autoImplicit false

namespace EnumCompanion

open EnumCompanion.Text

/-! ### Strings -/

/-- A literal with escapes ends at its quote, whatever follows. -/
theorem Text.readCooked_local {f : Flavour} {m : CookedMode} {cs v rest : List Char}
    (h : readCooked f m cs = some (v, rest)) :
    ∃ s, cs = s ++ rest ∧ ∀ k, readCooked f m (s ++ k) = some (v, k) := by
  fun_induction readCooked f m cs generalizing v rest
  case case2 hm =>
    simp only [Option.some.injEq, Prod.mk.injEq] at h
    obtain ⟨rfl, rfl⟩ := h
    exact ⟨['"'], rfl, fun k => by simp [readCooked, hm]⟩
  -- All other steps fail, or leave the rest of the literal to the next step.
  all_goals try (simp at h; done)
  all_goals try (
    simp only [Option.map_eq_some_iff, Prod.exists, Prod.mk.injEq] at h
    obtain ⟨v', rest', h, rfl, rfl⟩ := h)
  all_goals
    rename_i ih
    obtain ⟨s, rfl, hs⟩ := ih h
    refine ⟨_ :: s, rfl, fun k => ?_⟩
    rw [List.cons_append, readCooked]
    first | (simp [*]; done) | simp_all

/-- Hashes are dropped whatever follows them. -/
theorem Text.dropHashes?_local {n : Nat} {cs rest : List Char} (h : dropHashes? n cs = some rest) :
    ∃ s, cs = s ++ rest ∧ ∀ k, dropHashes? n (s ++ k) = some k := by
  induction n generalizing cs with
  | zero =>
    cases h
    exact ⟨[], rfl, fun k => rfl⟩
  | succ n ih =>
    unfold dropHashes? at h
    split at h
    next => contradiction
    next n' cs' heq =>
      cases heq
      obtain ⟨s, rfl, hs⟩ := ih h
      exact ⟨'#' :: s, rfl, hs⟩
    next => cases h

/-- Where a quote comes before enough hashes, it does so whatever follows. -/
theorem Text.dropHashes?_eq_none {n : Nat} {s x : List Char} (hquote : '"' ∈ s)
    (h : dropHashes? n (s ++ x) = none) (k : List Char) : dropHashes? n (s ++ k) = none := by
  induction n generalizing s with
  | zero => cases h
  | succ n ih =>
    cases s with
    | nil => cases hquote
    | cons c s =>
      by_cases hc : c = '#'
      · subst hc
        have hmem : '"' ∈ s := by simpa using hquote
        exact ih hmem h
      · simp [dropHashes?, hc]

/-- A literal without escapes ends at its quote and hashes, whatever
follows. -/
theorem Text.readRaw_local {f : Flavour} {hashes : Nat} {cs v rest : List Char}
    (h : readRaw f hashes cs = some (v, rest)) :
    ∃ s, cs = s ++ rest ∧ '"' ∈ s ∧ ∀ k, readRaw f hashes (s ++ k) = some (v, k) := by
  induction cs generalizing v with
  | nil => cases h
  | cons c cs ih =>
    have goesOn : ∀ {v : List Char}, (readRaw f hashes cs).map (fun p => (c :: p.1, p.2)) =
        some (v, rest) → ∃ s v', cs = s ++ rest ∧ v = c :: v' ∧ '"' ∈ s ∧
          ∀ k, readRaw f hashes (s ++ k) = some (v', k) := by
      intro v hv
      simp only [Option.map_eq_some_iff, Prod.exists, Prod.mk.injEq] at hv
      obtain ⟨v', rest', hv, rfl, rfl⟩ := hv
      obtain ⟨s, rfl, hquote, hs⟩ := ih hv
      exact ⟨s, v', rfl, rfl, hquote, hs⟩
    unfold readRaw at h
    simp only at h
    split at h
    next hc =>
      subst hc
      split at h
      next after hafter =>
        simp only [Option.some.injEq, Prod.mk.injEq] at h
        obtain ⟨rfl, rfl⟩ := h
        obtain ⟨s, rfl, hs⟩ := dropHashes?_local hafter
        exact ⟨'"' :: s, rfl, List.mem_cons_self, fun k => by simp [readRaw, hs]⟩
      next hnone =>
        obtain ⟨s, v', rfl, rfl, hquote, hs⟩ := goesOn h
        refine ⟨'"' :: s, rfl, List.mem_cons_self, fun k => ?_⟩
        have hnone' := dropHashes?_eq_none hquote hnone k
        simp [readRaw, hnone', hs]
    next hc =>
      split at h
      next => cases h
      next hreturn =>
        split at h
        next hadmits =>
          obtain ⟨s, v', rfl, rfl, hquote, hs⟩ := goesOn h
          refine ⟨c :: s, rfl, List.mem_cons_of_mem _ hquote, fun k => ?_⟩
          -- The character behind a carriage return is one of the literal.
          have hhead : (s ++ k).head? = (s ++ rest).head? := by
            obtain ⟨d, ds, rfl⟩ := List.exists_cons_of_ne_nil (List.ne_nil_of_mem hquote)
            rfl
          rw [List.cons_append, readRaw]
          simp only [if_neg hc, hhead, if_neg hreturn, hadmits, if_true, hs, Option.map_some]
        next => cases h

/-- A literal without escapes, with its hashes in front, ends where it
ends. -/
theorem Text.readRawOpening_local {f : Flavour} {cs v rest : List Char}
    (h : readRawOpening f cs = some (v, rest)) :
    ∃ s, cs = s ++ rest ∧ ∀ k, readRawOpening f (s ++ k) = some (v, k) := by
  unfold readRawOpening at h
  simp only at h
  split at h
  next inner hinner =>
    split at h
    next hlength =>
      obtain ⟨s, rfl, -, hs⟩ := readRaw_local h
      have hhashes : ∀ d ∈ cs.takeWhile (· == '#'), (d == '#') = true :=
        List.all_eq_true.mp List.all_takeWhile
      -- The quote ends the hashes, whatever stands behind the literal.
      refine ⟨cs.takeWhile (· == '#') ++ '"' :: s, ?_, fun k => ?_⟩
      · rw [List.append_assoc, List.cons_append, ← hinner, List.takeWhile_append_dropWhile]
      · have hquote : ∀ c ∈ ('"' :: (s ++ k)).head?, (c == '#') = false := by simp
        rw [List.append_assoc, List.cons_append, readRawOpening,
          Token.takeWhile_append_of_all hhashes hquote,
          Token.dropWhile_append_of_all hhashes hquote]
        simp only [hlength, if_true, hs]
    next => cases h
  next => cases h

namespace Token

/-! ### Suffixes -/

/-- A suffix is read up to a stop. -/
theorem exists_afterSuffix (cs : List Char) :
    ∃ w, cs = w ++ Number.afterSuffix cs ∧ (w = [] ∨ IsWord w) ∧
      ∀ k, Stops k → Number.afterSuffix (w ++ k) = k := by
  cases h : Number.afterName? cs with
  | none =>
    refine ⟨[], by simp [Number.afterSuffix, h], Or.inl rfl, fun k hk => ?_⟩
    cases k with
    | nil => rfl
    | cons c k =>
      have hc := (stops_spec (hk c rfl)).2.1
      simp [Number.afterSuffix, Number.afterName?, hc]
  | some after =>
    obtain ⟨w, hw, rfl, -⟩ := exists_word_of_afterName? h
    refine ⟨w, by simp [Number.afterSuffix, h], Or.inr hw, fun k hk => ?_⟩
    rw [Number.afterSuffix, afterName?_append hw hk.endsWord]
    rfl

/-- A text that `after` reads up to `rest` ends there before any stop. -/
def EndsAt (after : List Char → Option (List Char)) (cs rest : List Char) : Prop :=
  ∃ s, cs = s ++ rest ∧ ∀ k, Stops k → after (s ++ k) = some k

/-- What ends at its last character whatever follows ends at its suffix. -/
theorem endsAt_of_suffix {after : List Char → Option (List Char)} {cs rest : List Char}
    (h : ∃ s, cs = s ++ rest ∧ ∀ k, after (s ++ k) = some (Number.afterSuffix k)) :
    EndsAt after cs (Number.afterSuffix rest) := by
  obtain ⟨s, rfl, hs⟩ := h
  obtain ⟨w, hw, -, hstop⟩ := exists_afterSuffix rest
  refine ⟨s ++ w, by rw [List.append_assoc, ← hw], fun k hk => ?_⟩
  rw [List.append_assoc, hs, hstop k hk]

/-- A literal with escapes ends at its suffix. -/
theorem afterCooked?_endsAt {f : Flavour} {cs rest : List Char}
    (h : afterCooked? f cs = some rest) : EndsAt (afterCooked? f) cs rest := by
  simp only [afterCooked?, Option.map_eq_some_iff, Prod.exists] at h
  obtain ⟨v, rest, h, rfl⟩ := h
  obtain ⟨s, rfl, hs⟩ := readCooked_local h
  exact endsAt_of_suffix ⟨s, rfl, fun k => by rw [afterCooked?, hs]; rfl⟩

/-- A literal without escapes ends at its suffix. -/
theorem afterRaw?_endsAt {f : Flavour} {cs rest : List Char}
    (h : afterRaw? f cs = some rest) : EndsAt (afterRaw? f) cs rest := by
  simp only [afterRaw?, Option.map_eq_some_iff, Prod.exists] at h
  obtain ⟨v, rest, h, rfl⟩ := h
  obtain ⟨s, rfl, hs⟩ := readRawOpening_local h
  exact endsAt_of_suffix ⟨s, rfl, fun k => by rw [afterRaw?, hs]; rfl⟩

/-- What ends at a point does so with some characters in front. -/
theorem EndsAt.cons {after after' : List Char → Option (List Char)} {cs rest : List Char}
    (h : EndsAt after cs rest) (front : List Char)
    (hfront : ∀ cs, after' (front ++ cs) = after cs) :
    EndsAt after' (front ++ cs) rest := by
  obtain ⟨s, rfl, hs⟩ := h
  exact ⟨front ++ s, (List.append_assoc _ _ _).symm, fun k hk => by
    rw [List.append_assoc, hfront, hs k hk]⟩

/-- A string ends at its suffix. -/
theorem afterString?_endsAt {cs rest : List Char} (h : afterString? cs = some rest) :
    EndsAt afterString? cs rest := by
  unfold afterString? at h
  split at h
  next cs => exact (afterCooked?_endsAt h).cons ['"'] fun _ => rfl
  next cs => exact (afterRaw?_endsAt h).cons ['r'] fun _ => rfl
  next cs => exact (afterCooked?_endsAt h).cons ['b', '"'] fun _ => rfl
  next cs => exact (afterRaw?_endsAt h).cons ['b', 'r'] fun _ => rfl
  next cs => exact (afterCooked?_endsAt h).cons ['c', '"'] fun _ => rfl
  next cs => exact (afterRaw?_endsAt h).cons ['c', 'r'] fun _ => rfl
  next => cases h

/-! ### Characters and bytes -/

/-- The digits of an escape end at their brace, whatever follows. -/
theorem afterPoint?_local {value digits : Nat} {cs rest : List Char}
    (h : afterPoint? value digits cs = some rest) :
    ∃ s, cs = s ++ rest ∧ ∀ k, afterPoint? value digits (s ++ k) = some k := by
  induction cs generalizing value digits with
  | nil => cases h
  | cons c cs ih =>
    -- The cases are those of the definition: a gap, the brace, a digit.
    unfold afterPoint? at h
    split at h
    next hgap =>
      obtain ⟨s, rfl, hs⟩ := ih h
      exact ⟨c :: s, rfl, fun k => by rw [List.cons_append, afterPoint?, if_pos hgap, hs]⟩
    next hgap =>
      split at h
      next hbrace =>
        split at h
        next hvalid =>
          obtain rfl := Option.some.inj h
          refine ⟨[c], rfl, fun k => ?_⟩
          rw [List.cons_append, afterPoint?, if_neg hgap, if_pos hbrace, if_pos hvalid]
          rfl
        next => cases h
      next hbrace =>
        split at h
        next d hd =>
          split at h
          next hdigits =>
            obtain ⟨s, rfl, hs⟩ := ih h
            refine ⟨c :: s, rfl, fun k => ?_⟩
            rw [List.cons_append, afterPoint?, if_neg hgap, if_neg hbrace, hd]
            simp only [hdigits, if_true, hs]
          next => cases h
        next => cases h

/-- A digit is one character, whatever follows. -/
theorem afterHexDigit?_local {test : Nat → Bool} {cs rest : List Char}
    (h : afterHexDigit? test cs = some rest) :
    ∃ c, cs = c :: rest ∧ ∀ k, afterHexDigit? test (c :: k) = some k := by
  cases cs with
  | nil => cases h
  | cons c cs =>
    rw [afterHexDigit?] at h
    split at h
    next htest =>
      obtain rfl := Option.some.inj h
      exact ⟨c, rfl, fun k => by rw [afterHexDigit?, if_pos htest]⟩
    next => cases h

/-- An escape ends at its last character, whatever follows. -/
theorem afterEscape?_local {byte : Bool} {cs rest : List Char}
    (h : afterEscape? byte cs = some rest) :
    ∃ s, cs = s ++ rest ∧ ∀ k, afterEscape? byte (s ++ k) = some k := by
  unfold afterEscape? at h
  -- After `x` come two digits, after `u` digits in braces, and any other escape is one letter.
  split at h
  next => cases h
  next cs =>
    obtain ⟨middle, hhigh, hlow⟩ := Option.bind_eq_some_iff.mp h
    obtain ⟨c, rfl, hc⟩ := afterHexDigit?_local hhigh
    obtain ⟨d, rfl, hd⟩ := afterHexDigit?_local hlow
    exact ⟨['x', c, d], rfl, fun k => by simp [afterEscape?, hc, hd]⟩
  next cs =>
    split at h
    next => cases h
    next hbyte =>
      split at h
      next ds =>
        obtain ⟨s, rfl, hs⟩ := afterPoint?_local h
        exact ⟨'u' :: '\x7b' :: s, rfl, fun k => by simp [afterEscape?, hbyte, hs]⟩
      next => cases h
  next c cs hx hu =>
    split at h
    next hc =>
      obtain rfl := Option.some.inj h
      refine ⟨[c], rfl, fun k => ?_⟩
      rw [List.cons_append, List.nil_append, afterEscape?, if_pos hc]
      · exact hx
      · exact hu
    next => cases h

/-- The one character of a literal ends where it ends, whatever follows. -/
theorem afterOne?_local {byte : Bool} {cs rest : List Char} (h : afterOne? byte cs = some rest) :
    ∃ s, cs = s ++ rest ∧ ∀ k, afterOne? byte (s ++ k) = some k := by
  unfold afterOne? at h
  split at h
  next => cases h
  next cs =>
    obtain ⟨s, rfl, hs⟩ := afterEscape?_local h
    exact ⟨'\\' :: s, rfl, hs⟩
  next c cs hc =>
    split at h
    next => cases h
    next hbyte =>
      obtain rfl := Option.some.inj h
      refine ⟨[c], rfl, fun k => ?_⟩
      rw [List.cons_append, List.nil_append, afterOne?, if_neg hbyte]
      exact hc

/-- A character between quotes ends at its suffix. -/
theorem afterQuote?_endsAt {byte : Bool} {cs rest : List Char}
    (h : (afterOne? byte cs).bind afterQuote? = some rest) :
    EndsAt (fun cs => (afterOne? byte cs).bind afterQuote?) cs rest := by
  obtain ⟨after, hone, hquote⟩ := Option.bind_eq_some_iff.mp h
  obtain ⟨s, rfl, hs⟩ := afterOne?_local hone
  unfold afterQuote? at hquote
  split at hquote
  next after =>
    obtain rfl := Option.some.inj hquote
    refine endsAt_of_suffix ⟨s ++ ['\''], by simp, fun k => ?_⟩
    rw [List.append_assoc, hs]
    rfl
  next => cases hquote

/-- A byte or a character ends at its suffix. -/
theorem afterCharacter?_endsAt {cs rest : List Char} (h : afterCharacter? cs = some rest) :
    EndsAt afterCharacter? cs rest := by
  unfold afterCharacter? at h
  split at h
  next cs => exact (afterQuote?_endsAt h).cons ['b', '\''] fun _ => rfl
  next cs => exact (afterQuote?_endsAt h).cons ['\''] fun _ => rfl
  next => cases h

end Token

end EnumCompanion
