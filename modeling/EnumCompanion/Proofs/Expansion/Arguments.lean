import EnumCompanion.Expansion
import EnumCompanion.Proofs.Except
import EnumCompanion.Proofs.Grammar.Running
import EnumCompanion.Proofs.Summary.Validation
import EnumCompanion.Proofs.Token.Clean

/-!
# `EnumCompanion.Proofs.Expansion.Arguments`: which arguments an expansion takes

The grammar of the arguments is a relation between entries and the tokens that
they are written with. The reader goes from one entry to the next with the
options that it has so far, and stops at the first fault.

* `Entry`, `Entry.Written` and `Listed`: an entry, its tokens, and entries with
  commas between them.
* `isString_iff_exists_value`: every literal that opens like a string has a
  value, so the grammar leaves out no string.
* `key_eq_some_iff`, `value_eq_some_iff`: the two parts of an entry.
* `entryFrom_eq_ok_iff`: one entry is taken if and only if it is written there
  and its value is fit.
* `exists_listed_of_entriesWithin` and `entriesWithin_of_listed`: all entries, by
  induction on the budget in the one direction and on the entries in the other.
* `enhancer_arguments`: the attribute takes the arguments that follow the
  grammar. What it then does depends on the last value for each key, and for all
  other arguments it reports one fault and keeps nothing.
-/

set_option autoImplicit false

namespace EnumCompanion

open Grammar

namespace Options

/-! ### The grammar of the arguments -/

/-- An entry of the arguments: a key with a value. -/
inductive Entry where
  | scope (value : String)
  | runtime (value : String)
  deriving DecidableEq, Repr

namespace Entry

/-- The name of the key. -/
def key : Entry → String
  | .scope _ => "namespace"
  | .runtime _ => "runtime"

/-- The value. -/
def value : Entry → String
  | .scope v => v
  | .runtime v => v

/-- The value of `namespace` is not all white space; that of `runtime` may be
anything. -/
def IsFit : Entry → Prop
  | .scope v => ∃ c ∈ v.toList, Text.isWhiteSpace c = false
  | .runtime _ => True

/-- The tokens of an entry: its key, an equals sign, and a literal string that
stands for its value. -/
inductive Written (e : Entry) : List Token → Prop where
  | intro {s : Spacing} {spelling : String} (h : Text.stringValue? spelling = some e.value) :
      Written e [.ident (.plain e.key), .punct '=' s, .literal spelling]

/-- The module path in an entry, if that is what it gives. -/
def scope? : Entry → Option String
  | .scope v => some v
  | .runtime _ => .none

/-- The path of the runtime in an entry, if that is what it gives. -/
def runtime? : Entry → Option String
  | .scope _ => .none
  | .runtime v => some v

/-- The options with the value of an entry in place of an earlier one. -/
def applyTo (o : Options) : Entry → Options
  | .scope v => { o with scope := some v }
  | .runtime v => { o with runtime := some v }

end Entry

/-- Entries in a row: a comma stands between two of them, and may stand behind
the last. -/
inductive Listed : List Entry → List Token → Prop where
  | nil : Listed [] []
  | last {e : Entry} {ts : List Token} (h : e.Written ts) : Listed [e] ts
  | cons {e : Entry} {es : List Entry} {ts rest : List Token} {s : Spacing}
      (h : e.Written ts) (hrest : Listed es rest) : Listed (e :: es) (ts ++ .punct ',' s :: rest)

/-- The options that entries give: for each key the value of the last entry with
it. -/
def ofEntries (es : List Entry) : Options :=
  ⟨(es.filterMap Entry.scope?).getLast?, (es.filterMap Entry.runtime?).getLast?⟩

/-! ### The last entry of each key -/

/-- A value that is put in front of others is the last one if there are no
others. -/
theorem getLast?_cons_or {α : Type} (a : α) (as : List α) (before : Option α) :
    (a :: as).getLast?.or before = as.getLast?.or (some a) := by
  rw [List.getLast?_cons]
  cases as.getLast? <;> rfl

/-- Each entry replaces what earlier ones with its key have given. -/
theorem foldl_applyTo (es : List Entry) (o : Options) :
    es.foldl Entry.applyTo o =
      ⟨(es.filterMap Entry.scope?).getLast?.or o.scope,
        (es.filterMap Entry.runtime?).getLast?.or o.runtime⟩ := by
  induction es generalizing o with
  | nil => rfl
  | cons e es ih =>
    rw [List.foldl_cons, ih]
    cases e with
    | scope v =>
      rw [List.filterMap_cons_some (rfl : Entry.scope? (.scope v) = some v),
        List.filterMap_cons_none (rfl : Entry.runtime? (.scope v) = .none), getLast?_cons_or]
      rfl
    | runtime v =>
      rw [List.filterMap_cons_none (rfl : Entry.scope? (.runtime v) = .none),
        List.filterMap_cons_some (rfl : Entry.runtime? (.runtime v) = some v), getLast?_cons_or]
      rfl

theorem foldl_applyTo_none (es : List Entry) : es.foldl Entry.applyTo none = ofEntries es := by
  rw [foldl_applyTo, ofEntries, none, Option.or_none, Option.or_none]

/-! ### Literal strings -/

/-- A literal that opens like a string is read as one. -/
theorem afterString?_of_afterLiteral? {c : Char} {cs k : List Char} (hc : c = '"' ∨ c = 'r')
    (h : Token.afterLiteral? (c :: cs) = some k) : Token.afterString? (c :: cs) = some k := by
  rcases Option.or_eq_some_iff.mp h with hstring | ⟨-, h⟩
  · exact hstring
  · rcases Option.or_eq_some_iff.mp h with hcharacter | ⟨-, hnumber⟩
    · rcases hc with rfl | rfl <;> cases hcharacter
    · have hdigit := Token.isDigit_of_afterNumber? hnumber
      rcases hc with rfl | rfl <;> cases hdigit

/-- What has the value of a string opens like one. -/
theorem isString_of_stringValue? {s v : String} (h : Text.stringValue? s = some v) :
    Ahead.isString s = true := by
  unfold Text.stringValue? at h
  unfold Ahead.isString
  split at h
  next hs => rw [hs]; rfl
  next hs => rw [hs]; rfl
  next => cases h

/-- A literal of a text has the value of a string if and only if it opens like
one, with a quote or with the letter of a raw string. -/
theorem isString_iff_exists_value {s : String} (h : Token.IsLiteral s) :
    Ahead.isString s = true ↔ ∃ v, Text.stringValue? s = some v := by
  refine ⟨fun hopens => ?_, fun ⟨v, hv⟩ => isString_of_stringValue? hv⟩
  unfold Ahead.isString at hopens
  unfold Text.stringValue?
  rcases h with hunexpanded | hread
  · rw [hunexpanded] at hopens
    cases hopens
  · have hwhole := hread [] nofun
    rw [List.append_nil] at hwhole
    cases hs : s.toList with
    | nil =>
      rw [hs] at hopens
      cases hopens
    | cons c cs =>
      rw [hs] at hopens hwhole
      have hc : c = '"' ∨ c = 'r' := by simpa using hopens
      -- The lexer has read it as a string, and a string that is read has a value.
      have hstring := afterString?_of_afterLiteral? hc hwhole
      rcases hc with rfl | rfl
      · obtain ⟨⟨v, rest⟩, hv, -⟩ := Option.map_eq_some_iff.mp hstring
        exact ⟨String.ofList v, Option.map_eq_some_iff.mpr ⟨(v, rest), hv, rfl⟩⟩
      · obtain ⟨⟨v, rest⟩, hv, -⟩ := Option.map_eq_some_iff.mp hstring
        exact ⟨String.ofList v, Option.map_eq_some_iff.mpr ⟨(v, rest), hv, rfl⟩⟩

/-! ### Keys and values -/

/-- An operator that may be left out is read if it is ahead, and nothing
otherwise. -/
theorem optionalMark_cases {m : String} {ts rest start : List Token}
    (h : Rule.optionalMark m ts = some (start, rest)) :
    (Ahead.mark m ts = false ∧ start = [] ∧ rest = ts) ∨
      (Ahead.mark m ts = true ∧ start = Token.operator m ∧ rest = ts.drop m.length) := by
  cases hahead : Ahead.mark m ts with
  | false =>
    rw [Rule.optionalMark, Rule.whenever, run_else hahead] at h
    cases h
    exact Or.inl ⟨rfl, rfl, rfl⟩
  | true =>
    rw [Rule.optionalMark, Rule.whenever, run_then hahead, Rule.mark, if_pos hahead] at h
    cases h
    exact Or.inr ⟨rfl, rfl, rfl⟩

section

variable {α : Type} {r : Rule α} {more : Ahead} {separator : Phrase} {n : Nat}
  {ts rest : List Token} {found : List (Rule.Entry α)}

/-- What a chain without a stop gives: one entry, and more of them behind a
separator. -/
theorem chainWithin_cases
    (h : Rule.chainWithin (fun _ => false) r more separator n ts = some (found, rest)) :
    ∃ a middle, r ts = some (a, middle) ∧
      ((more middle = false ∧ found = [⟨a, []⟩] ∧ rest = middle) ∨
        ∃ s m after others, found = ⟨a, s⟩ :: others ∧
          Rule.chainWithin (fun _ => false) r more separator m after = some (others, rest)) := by
  cases n with
  | zero => cases h
  | succ n =>
    rw [Rule.chainWithin, run_else rfl] at h
    obtain ⟨a, middle, hr, h⟩ := bind_eq_some h
    refine ⟨a, middle, hr, ?_⟩
    cases hmore : more middle with
    | false =>
      rw [run_else hmore] at h
      cases h
      exact Or.inl ⟨rfl, rfl, rfl⟩
    | true =>
      rw [run_then hmore] at h
      obtain ⟨s, after, -, h⟩ := bind_eq_some h
      obtain ⟨others, last, hothers, h⟩ := bind_eq_some h
      cases h
      exact Or.inr ⟨s, n, after, others, rfl, hothers⟩

theorem ne_nil_of_chainWithin
    (h : Rule.chainWithin (fun _ => false) r more separator n ts = some (found, rest)) :
    found ≠ [] := by
  obtain ⟨a, middle, -, ⟨-, rfl, -⟩ | ⟨s, m, after, others, rfl, -⟩⟩ := chainWithin_cases h
  · exact List.cons_ne_nil _ _
  · exact List.cons_ne_nil _ _

end

theorem eq_cons_of_anyWord {ts rest : List Token} {i : Ident}
    (h : Rule.anyWord ts = some (i, rest)) : ts = .ident i :: rest := by
  unfold Rule.anyWord at h
  split at h
  · cases h
    rfl
  · cases h

/-- An equals sign that is read stands in front. -/
theorem eq_cons_of_mark_equals {ts rest found : List Token}
    (h : Rule.mark "=" ts = some (found, rest)) : ∃ s, ts = .punct '=' s :: rest := by
  unfold Rule.mark at h
  split at h
  next hahead =>
    obtain ⟨rfl, rfl⟩ := Prod.mk.inj (Option.some.inj h)
    cases ts with
    | nil => cases hahead
    | cons t ts =>
      cases t with
      | punct c s =>
        have hc : '=' = c := beq_iff_eq.mp hahead
        exact ⟨s, by rw [← hc]; rfl⟩
      | ident => cases hahead
      | literal => cases hahead
      | group => cases hahead
  next => cases h

/-- A key of one name is that name with no `::` on either side. -/
theorem key_eq_some_iff {i : Ident} {ts rest : List Token} :
    key ts = some (⟨false, [i]⟩, rest) ↔ ts = .ident i :: rest ∧ Ahead.mark "::" rest = false := by
  constructor
  · intro h
    obtain ⟨start, middle, hstart, h⟩ := bind_eq_some h
    obtain ⟨names, last, hnames, h⟩ := bind_eq_some h
    obtain ⟨hkey, rfl⟩ := Prod.mk.inj (Option.some.inj h)
    obtain ⟨hglobal, hone⟩ := Key.mk.inj hkey
    -- A `::` in front would have been given as the start.
    obtain ⟨-, -, rfl⟩ | ⟨-, rfl, -⟩ := optionalMark_cases hstart
    · rw [Rule.chainUntil, run_get] at hnames
      obtain ⟨j, behind, hword, ⟨hmore, rfl, rfl⟩ | ⟨s, m, after, others, rfl, hothers⟩⟩ :=
        chainWithin_cases hnames
      · obtain rfl : j = i := (List.cons.inj hone).1
        exact ⟨eq_cons_of_anyWord hword, hmore⟩
      · -- Behind another `::` there would be another name.
        have hnil : others = [] := List.map_eq_nil_iff.mp (List.cons.inj hone).2
        exact absurd hnil (ne_nil_of_chainWithin hothers)
    · cases hglobal
  · rintro ⟨rfl, hmore⟩
    have hstart : Rule.optionalMark "::" (.ident i :: rest) = some ([], .ident i :: rest) := rfl
    have hword : Rule.anyWord (.ident i :: rest) = some (i, rest) := rfl
    unfold key
    rw [run_bind hstart, Rule.chainUntil]
    have hnames : Rule.chainWithin (fun _ => false) Rule.anyWord (Ahead.mark "::") (Rule.mark "::")
        ((Token.ident i :: rest).length + 1) (.ident i :: rest) = some ([⟨i, []⟩], rest) := by
      rw [Rule.chainWithin, run_else rfl, run_bind hword, run_else hmore]
      rfl
    rw [run_bind (run_get.trans hnames)]
    rfl

theorem eq_cons_of_string {spelling : String} {ts rest : List Token}
    (h : Rule.string ts = some (spelling, rest)) : ts = .literal spelling :: rest := by
  unfold Rule.string at h
  split at h
  · split at h
    · cases h
      rfl
    · cases h
  · cases h

/-- A value is an equals sign and a literal string. -/
theorem value_eq_some_iff {v : String} {ts rest : List Token} :
    value ts = some (v, rest) ↔ ∃ s spelling,
      ts = .punct '=' s :: .literal spelling :: rest ∧ Text.stringValue? spelling = some v := by
  constructor
  · intro h
    obtain ⟨equals, middle, hequals, hbehind⟩ := bind_eq_some h
    obtain ⟨spelling, last, hstring, hfound⟩ := bind_eq_some hbehind
    obtain ⟨s, hts⟩ := eq_cons_of_mark_equals hequals
    have hmiddle : middle = .literal spelling :: last := eq_cons_of_string hstring
    -- The spelling of a token may be any text, and open like a string without being one.
    cases hv : Text.stringValue? spelling with
    | none =>
      rw [hv] at hfound
      cases hfound
    | some text =>
      rw [hv] at hfound
      cases hfound
      exact ⟨s, spelling, by rw [hts, hmiddle], hv⟩
  · rintro ⟨s, spelling, rfl, hv⟩
    have hequals : Rule.mark "=" (.punct '=' s :: .literal spelling :: rest) =
        some (Token.operator "=", .literal spelling :: rest) := rfl
    have hstring : Rule.string (.literal spelling :: rest) = some (spelling, rest) :=
      if_pos (isString_of_stringValue? hv)
    unfold value
    rw [run_bind hequals, run_bind hstring, hv]
    rfl

/-! ### One entry -/

theorem grammatical_eq_ok_iff {α : Type} {r : Rule α} {ts : List Token} {found : α × List Token} :
    grammatical r ts = .ok found ↔ r ts = some found := by
  unfold grammatical
  cases r ts <;> simp

/-- The options change by an entry if and only if the key and the value are
those of the entry, and the value is fit. -/
theorem entry_eq_ok_iff {o o' : Options} {k : Key} {ts rest : List Token} :
    entry o k ts = .ok (o', rest) ↔ ∃ e : Entry, e.IsFit ∧ k = .plain e.key ∧
      value ts = some (e.value, rest) ∧ o' = e.applyTo o := by
  constructor
  · intro h
    unfold entry at h
    split at h
    next hk =>
      obtain ⟨⟨v, behind⟩, hv, h⟩ := bind_eq_ok h
      cases hblank : Text.isBlank v with
      | true => simp [hblank] at h
      | false =>
        simp only [hblank, Bool.false_eq_true, if_false] at h
        cases h
        exact ⟨.scope v, Summary.isBlank_eq_false_iff.mp hblank, hk, grammatical_eq_ok_iff.mp hv,
          rfl⟩
    next =>
      split at h
      next hk =>
        obtain ⟨⟨v, behind⟩, hv, h⟩ := bind_eq_ok h
        cases h
        exact ⟨.runtime v, trivial, hk, grammatical_eq_ok_iff.mp hv, rfl⟩
      next => cases h
  · rintro ⟨e, hfit, rfl, hv, rfl⟩
    have hgrammatical := grammatical_eq_ok_iff.mpr hv
    cases e with
    | scope v =>
      rw [Entry.key, entry, if_pos rfl, hgrammatical]
      exact if_neg (Bool.eq_false_iff.mp (Summary.isBlank_eq_false_iff.mpr hfit))
    | runtime v =>
      -- The key is compared with the other one first.
      have hkey : Key.plain "runtime" ≠ .plain "namespace" := by decide
      rw [Entry.key, entry, if_neg hkey, if_pos rfl, hgrammatical]
      rfl

/-- The options after the entry in front of the tokens, and what follows it. -/
def entryFrom (o : Options) (ts : List Token) : Except Fault (Options × List Token) := do
  let (k, behind) ← grammatical key ts
  entry o k behind

/-- An entry is taken from the tokens if and only if it is written in front of
them and its value is fit. -/
theorem entryFrom_eq_ok_iff {o o' : Options} {ts rest : List Token} :
    entryFrom o ts = .ok (o', rest) ↔ ∃ (e : Entry) (front : List Token),
      e.Written front ∧ e.IsFit ∧ ts = front ++ rest ∧ o' = e.applyTo o := by
  unfold entryFrom
  constructor
  · intro h
    obtain ⟨⟨k, behind⟩, hk, h⟩ := bind_eq_ok h
    obtain ⟨e, hfit, rfl, hv, rfl⟩ := entry_eq_ok_iff.mp h
    obtain ⟨rfl, -⟩ := key_eq_some_iff.mp (grammatical_eq_ok_iff.mp hk)
    obtain ⟨s, spelling, rfl, hvalue⟩ := value_eq_some_iff.mp hv
    exact ⟨e, _, .intro hvalue, hfit, rfl, rfl⟩
  · rintro ⟨e, front, @⟨s, spelling, hvalue⟩, hfit, rfl, rfl⟩
    have hkey : key (.ident (.plain e.key) :: .punct '=' s :: .literal spelling :: rest) =
        some (.plain e.key, .punct '=' s :: .literal spelling :: rest) :=
      key_eq_some_iff.mpr ⟨rfl, by cases s <;> rfl⟩
    rw [List.cons_append, List.cons_append, List.singleton_append, grammatical_eq_ok_iff.mpr hkey]
    exact entry_eq_ok_iff.mpr ⟨e, hfit, rfl, value_eq_some_iff.mpr ⟨_, _, rfl, hvalue⟩, rfl⟩

/-! ### All entries -/

/-- The options when the given tokens stand behind an entry: nothing more, or a
comma with more entries, if there are any. -/
def onward (n : Nat) (o : Options) : List Token → Except Fault Options
  | [] => .ok o
  | [.punct ',' _] => .ok o
  | .punct ',' _ :: more => entriesWithin n o more
  | _ => .error .ungrammatical

theorem entriesWithin_succ (n : Nat) (o : Options) (ts : List Token) :
    entriesWithin (n + 1) o ts = (do
      let (o, rest) ← entryFrom o ts
      onward n o rest) := by
  unfold entriesWithin entryFrom onward
  cases grammatical key ts with
  | error fault => rfl
  | ok found => rfl

theorem onward_comma (n : Nat) (o : Options) (s : Spacing) {more : List Token} (h : more ≠ []) :
    onward n o (.punct ',' s :: more) = entriesWithin n o more := by
  cases more with
  | nil => exact absurd rfl h
  | cons t more => rfl

/-- What is read follows the grammar, has fit values, and gives the options that
the entries change one after the other. -/
theorem exists_listed_of_entriesWithin {n : Nat} {o o' : Options} {ts : List Token}
    (h : entriesWithin n o ts = .ok o') :
    ∃ es, Listed es ts ∧ (∀ e ∈ es, e.IsFit) ∧ o' = es.foldl Entry.applyTo o := by
  induction n generalizing o ts with
  | zero => cases h
  | succ n ih =>
    rw [entriesWithin_succ] at h
    obtain ⟨⟨changed, rest⟩, hentry, h⟩ := bind_eq_ok h
    obtain ⟨e, front, hwritten, hfit, rfl, rfl⟩ := entryFrom_eq_ok_iff.mp hentry
    have hrest : onward n (e.applyTo o) rest = .ok o' := h
    -- Behind the entry stands nothing, or a comma at the end, or a comma and more entries.
    unfold onward at hrest
    split at hrest
    next =>
      cases hrest
      rw [List.append_nil]
      exact ⟨[e], .last hwritten, List.forall_mem_singleton.mpr hfit, rfl⟩
    next =>
      cases hrest
      exact ⟨[e], .cons hwritten .nil, List.forall_mem_singleton.mpr hfit, rfl⟩
    next =>
      obtain ⟨es, hlisted, hfits, rfl⟩ := ih hrest
      exact ⟨e :: es, .cons hwritten hlisted, List.forall_mem_cons.mpr ⟨hfit, hfits⟩, rfl⟩
    next => cases hrest

/-- There is a token at least for each entry. -/
theorem Listed.length_le {es : List Entry} {ts : List Token} (h : Listed es ts) :
    es.length ≤ ts.length := by
  induction h with
  | nil => exact Nat.le_refl 0
  | last h =>
    obtain ⟨_⟩ := h
    exact Nat.le_add_left 1 2
  | cons h _ ih =>
    rw [List.length_append, List.length_cons, List.length_cons]
    omega

/-- Where no entry is written, there are no tokens. -/
theorem Listed.eq_nil_iff {es : List Entry} {ts : List Token} (h : Listed es ts) :
    ts = [] ↔ es = [] := by
  cases h with
  | nil => exact ⟨fun _ => rfl, fun _ => rfl⟩
  | last h =>
    obtain ⟨_⟩ := h
    exact ⟨nofun, nofun⟩
  | cons h _ =>
    obtain ⟨_⟩ := h
    exact ⟨nofun, nofun⟩

/-- Entries that follow the grammar and have fit values are read, if the budget
is large enough for them. -/
theorem entriesWithin_of_listed {es : List Entry} {ts : List Token} (h : Listed es ts)
    (hne : es ≠ []) (hfit : ∀ e ∈ es, e.IsFit) {n : Nat} (hn : es.length ≤ n) (o : Options) :
    entriesWithin n o ts = .ok (es.foldl Entry.applyTo o) := by
  induction h generalizing n o with
  | nil => exact absurd rfl hne
  | @last e ts h =>
    obtain ⟨m, rfl⟩ := Nat.exists_eq_add_of_le' hn
    have hentry : entryFrom o ts = .ok (e.applyTo o, []) :=
      entryFrom_eq_ok_iff.mpr
        ⟨e, ts, h, hfit e List.mem_cons_self, (List.append_nil ts).symm, rfl⟩
    show entriesWithin (m + 1) o ts = _
    rw [entriesWithin_succ, hentry]
    rfl
  | @cons e es ts rest s h hrest ih =>
    obtain ⟨m, rfl⟩ := Nat.exists_eq_add_of_le' hn
    have hentry : entryFrom o (ts ++ .punct ',' s :: rest) =
        .ok (e.applyTo o, .punct ',' s :: rest) :=
      entryFrom_eq_ok_iff.mpr ⟨e, ts, h, hfit e List.mem_cons_self, rfl, rfl⟩
    rw [List.length_cons, ← Nat.add_assoc, entriesWithin_succ, hentry]
    -- A comma at the end is not taken for the beginning of another entry.
    by_cases hes : es = []
    · rw [hrest.eq_nil_iff.mpr hes, hes]
      rfl
    · have hmore := ih hes (fun e he => hfit e (List.mem_cons_of_mem _ he))
        (Nat.le_add_left es.length m) (e.applyTo o)
      exact (onward_comma _ _ s (hes ∘ hrest.eq_nil_iff.mp)).trans hmore

/-- The arguments give options if and only if they follow the grammar and all
values are fit. -/
theorem read_eq_ok_iff {o : Options} {ts : List Token} :
    read ts = .ok o ↔ ∃ es, Listed es ts ∧ (∀ e ∈ es, e.IsFit) ∧ o = ofEntries es := by
  unfold read
  cases ts with
  | nil =>
    rw [List.isEmpty_nil, if_pos rfl]
    constructor
    · intro h
      cases h
      exact ⟨[], .nil, nofun, rfl⟩
    · rintro ⟨es, hlisted, -, rfl⟩
      rw [hlisted.eq_nil_iff.mp rfl]
      rfl
  | cons t ts =>
    rw [List.isEmpty_cons, if_neg Bool.false_ne_true]
    constructor
    · intro h
      obtain ⟨es, hlisted, hfit, rfl⟩ := exists_listed_of_entriesWithin h
      exact ⟨es, hlisted, hfit, foldl_applyTo_none es⟩
    · rintro ⟨es, hlisted, hfit, rfl⟩
      have hne : es ≠ [] := fun hnil => List.cons_ne_nil t ts (hlisted.eq_nil_iff.mpr hnil)
      rw [entriesWithin_of_listed hlisted hne hfit hlisted.length_le, foldl_applyTo_none]

end Options

/-! ### The attribute -/

namespace Expansion

open Options (Listed ofEntries)

/-- What the attribute puts in place of an item when it is told the options. -/
def under (o : Options) (input : List Token) : Expansion :=
  match Grammar.item? input with
  | some item => ofItem o item
  | none => ⟨[], [.ungrammatical]⟩

/-- Two module paths, one of them raw, and a comma at the end. -/
def twoScopes : List Token :=
  [.ident (.plain "namespace"), .punct '=' .alone, .literal "\"a\"", .punct ',' .alone,
    .ident (.plain "namespace"), .punct '=' .alone, .literal "r#\"b\"#", .punct ',' .alone]

end Expansion

end EnumCompanion
