import EnumCompanion.Summary.Document
import Mathlib.Data.List.Forall2

/-!
# `EnumCompanion.Proofs.Summary.Forms`: the documents that say a summary

A summary is written in one way and read in several. The forms of a summary
are the documents that say it: objects with its keys in any order and other
keys in between, or lists of its values, and for either the parameters left
out if there are none. Each parameter has two such forms of its own,
independently of the others.

* `Document.Shows`: an object shows fields if they are among its entries and
  no other entry has one of the known keys. `shows_iff` says so by the
  entries under each known key, which is what a reader looks at.
* `Parameter.Form` and `Summary.Form`: the forms.
* `ofDocument?_iff_form`: exactly the forms of a summary are read as it, and
  the document that it is written as is one of them.
-/

set_option autoImplicit false

namespace EnumCompanion

/-! ### Fields of an object -/

namespace Document

variable {known : List String} {fields entries : List (String × Document)}

/-- The object with these entries shows the fields: they come in any order, and
what is beside them has other keys than the known ones. -/
def Shows (known : List String) (fields entries : List (String × Document)) : Prop :=
  ∃ others, entries.Perm (fields ++ others) ∧ ∀ e ∈ others, e.1 ∉ known

theorem Shows.refl (known : List String) (fields : List (String × Document)) :
    Shows known fields fields :=
  ⟨[], by rw [List.append_nil], List.forall_mem_nil _⟩

/-- The entries of a list under one of its keys are as many as in the list. -/
theorem perm_of_filter_key {l l' : List (String × Document)}
    (h : ∀ key, (l.filter (·.1 == key)).Perm (l'.filter (·.1 == key))) : l.Perm l' := by
  classical
  rw [List.perm_iff_count]
  intro e
  have hkey := (h e.1).count_eq e
  rwa [List.count_filter (by simp), List.count_filter (by simp)] at hkey

/-- An object shows the fields exactly if it has the same entries under each of
the known keys. -/
theorem shows_iff (hfields : ∀ e ∈ fields, e.1 ∈ known) :
    Shows known fields entries ↔
      ∀ key ∈ known, (entries.filter (·.1 == key)).Perm (fields.filter (·.1 == key)) := by
  constructor
  · rintro ⟨others, hperm, hothers⟩ key hkey
    have hnone : others.filter (·.1 == key) = [] := by
      rw [List.filter_eq_nil_iff]
      intro e he heq
      exact hothers e he (beq_iff_eq.mp heq ▸ hkey)
    have hfilter := hperm.filter (·.1 == key)
    rwa [List.filter_append, hnone, List.append_nil] at hfilter
  · intro h
    -- The entries with known keys are the fields: they agree under each of these keys, and
    -- there is nothing under another key in either.
    have hknown : (entries.filter (known.contains ·.1)).Perm fields := by
      refine perm_of_filter_key fun key => ?_
      rw [List.filter_filter]
      by_cases hkey : key ∈ known
      · have hsame : entries.filter (fun e => e.1 == key && known.contains e.1) =
            entries.filter (·.1 == key) := by
          refine List.filter_congr fun e _ => ?_
          by_cases he : e.1 = key <;> simp [he, hkey]
        rw [hsame]
        exact h key hkey
      · have hentries : entries.filter (fun e => e.1 == key && known.contains e.1) = [] := by
          rw [List.filter_eq_nil_iff]
          intro e _ he
          simp only [Bool.and_eq_true, beq_iff_eq, List.contains_iff_mem] at he
          exact hkey (he.1 ▸ he.2)
        have hnone : fields.filter (·.1 == key) = [] := by
          rw [List.filter_eq_nil_iff]
          intro e he heq
          exact hkey (beq_iff_eq.mp heq ▸ hfields e he)
        rw [hentries, hnone]
    have hsplit := List.filter_append_perm (fun e => known.contains e.1) entries
    refine ⟨entries.filter (!known.contains ·.1), hsplit.symm.trans (hknown.append_right _), ?_⟩
    intro e he hmem
    have hnot := (List.mem_filter.mp he).2
    rw [List.contains_iff_mem.mpr hmem] at hnot
    cases hnot

/-! ### What is read under a key -/

/-- An entry that is found under a key has the key. -/
theorem fst_of_filter {key : String} {e : String × Document}
    (h : entries.filter (·.1 == key) = [e]) : e = (key, e.2) := by
  have hmem : e ∈ entries.filter (·.1 == key) := by
    rw [h]
    exact List.mem_singleton_self e
  exact Prod.ext (beq_iff_eq.mp (List.mem_filter.mp hmem).2) rfl

theorem value?_eq_some_iff {key : String} {d : Document} :
    value? entries key = some d ↔ entries.filter (·.1 == key) = [(key, d)] := by
  unfold value?
  split
  next e hfilter =>
    rw [hfilter, fst_of_filter hfilter]
    simp
  next hmany =>
    exact iff_of_false nofun (hmany _)

theorem valueOrNone?_eq_some_iff {key : String} {d? : Option Document} :
    valueOrNone? entries key = some d? ↔
      entries.filter (·.1 == key) = d?.toList.map fun d => (key, d) := by
  unfold valueOrNone?
  split
  next hfilter =>
    rw [hfilter]
    cases d? <;> simp
  next e hfilter =>
    rw [hfilter, fst_of_filter hfilter]
    cases d? <;> simp
  next hnone hmany =>
    cases d? with
    | none => exact iff_of_false nofun hnone
    | some d => exact iff_of_false nofun (hmany _)

/-! ### Texts -/

theorem text?_eq_some_iff {d : Document} {s : String} : d.text? = some s ↔ d = .text s := by
  cases d <;> simp [text?]

end Document

/-- The same step for each item comes to results if and only if it does for
every one. -/
theorem mapM_eq_some_iff {α β : Type} {f : α → Option β} {as : List α} {bs : List β} :
    as.mapM f = some bs ↔ List.Forall₂ (fun a b => f a = some b) as bs := by
  induction as generalizing bs with
  | nil =>
    rw [List.mapM_nil, List.forall₂_nil_left_iff]
    exact ⟨fun h => (Option.some.inj h).symm, fun h => h ▸ rfl⟩
  | cons a as ih =>
    rw [List.mapM_cons, List.forall₂_cons_left_iff]
    simp only [Option.bind_eq_bind, Option.bind_eq_some_iff, ih, Option.pure_def, Option.some.injEq]
    constructor
    · rintro ⟨b, hb, rest, hrest, rfl⟩
      exact ⟨b, rest, hb, hrest, rfl⟩
    · rintro ⟨b, rest, hb, hrest, rfl⟩
      exact ⟨b, hb, rest, hrest, rfl⟩

theorem Document.texts?_eq_some_iff {d : Document} {ss : List String} :
    d.texts? = some ss ↔ d = .list (ss.map .text) := by
  cases d with
  | list items =>
    rw [texts?, mapM_eq_some_iff]
    simp only [text?_eq_some_iff, list.injEq]
    rw [← List.forall₂_eq_eq_eq, List.forall₂_map_right_iff]
  | text s => simp [texts?]
  | object entries => simp [texts?]
  | other => simp [texts?]

/-! ### Parameters -/

namespace Parameter

/-- The keys of a parameter. -/
def keys : List String := ["name", "type_name"]

/-- The values of a parameter, each under its key. -/
def fields (p : Parameter) : List (String × Document) :=
  [("name", .text p.name), ("type_name", .text p.type)]

/-- The documents that say a parameter. -/
inductive Form (p : Parameter) : Document → Prop where
  | object {entries : List (String × Document)} (h : Document.Shows keys p.fields entries) :
      Form p (.object entries)
  | list : Form p (.list [.text p.name, .text p.type])

/-- What may stand for parameters: a list with a form of each, or nothing at all
if there are none. -/
inductive Forms : List Parameter → Option Document → Prop where
  | list {ps : List Parameter} {items : List Document} (h : List.Forall₂ Form ps items) :
      Forms ps (some (.list items))
  | missing : Forms [] none

theorem shows_fields_iff {p : Parameter} {entries : List (String × Document)} :
    Document.Shows keys p.fields entries ↔
      entries.filter (·.1 == "name") = [("name", .text p.name)] ∧
        entries.filter (·.1 == "type_name") = [("type_name", .text p.type)] := by
  rw [Document.shows_iff (by simp [fields, keys])]
  simp [keys, fields]

theorem ofValues?_eq_some_iff {name type : Document} {p : Parameter} :
    ofValues? name type = some p ↔ name = .text p.name ∧ type = .text p.type := by
  simp only [ofValues?, Option.bind_eq_bind, Option.bind_eq_some_iff,
    Document.text?_eq_some_iff, Option.pure_def, Option.some.injEq]
  constructor
  · rintro ⟨n, rfl, t, rfl, rfl⟩
    exact ⟨rfl, rfl⟩
  · rintro ⟨rfl, rfl⟩
    exact ⟨_, rfl, _, rfl, rfl⟩

/-- Exactly the forms of a parameter are read as it. -/
theorem ofDocument?_eq_some_iff {d : Document} {p : Parameter} :
    ofDocument? d = some p ↔ p.Form d := by
  constructor
  · intro h
    unfold ofDocument? at h
    split at h
    next name type =>
      obtain ⟨rfl, rfl⟩ := ofValues?_eq_some_iff.mp h
      exact .list
    next entries =>
      obtain ⟨name, hname, h⟩ := Option.bind_eq_some_iff.mp h
      obtain ⟨type, htype, h⟩ := Option.bind_eq_some_iff.mp h
      obtain ⟨rfl, rfl⟩ := ofValues?_eq_some_iff.mp h
      rw [Document.value?_eq_some_iff] at hname htype
      exact .object (shows_fields_iff.mpr ⟨hname, htype⟩)
    next => cases h
  · intro h
    cases h with
    | list => exact ofValues?_eq_some_iff.mpr ⟨rfl, rfl⟩
    | object h =>
      obtain ⟨hname, htype⟩ := shows_fields_iff.mp h
      rw [← Document.value?_eq_some_iff] at hname htype
      simp only [ofDocument?, hname, htype, Option.bind_eq_bind, Option.bind_some]
      exact ofValues?_eq_some_iff.mpr ⟨rfl, rfl⟩

end Parameter

/-! ### Summaries -/

namespace Summary

/-- The keys of a summary. -/
def keys : List String := ["namespace", "type_name", "constant_names", "constructor_parameters"]

/-- The values of a summary but for its parameters, each under its key. -/
def fields (s : Summary) : List (String × Document) :=
  [("namespace", .text s.scope), ("type_name", .text s.name),
    ("constant_names", .list (s.constants.map .text))]

/-- The documents that say a summary. -/
inductive Form (s : Summary) : Document → Prop where
  | object {parameters : Option Document} {entries : List (String × Document)}
      (hparameters : Parameter.Forms s.parameters parameters)
      (h : Document.Shows keys
        (s.fields ++ parameters.toList.map fun d => ("constructor_parameters", d)) entries) :
      Form s (.object entries)
  | list {parameters : Option Document} (hparameters : Parameter.Forms s.parameters parameters) :
      Form s (.list (s.fields.map Prod.snd ++ parameters.toList))

theorem shows_fields_iff {s : Summary} {parameters : Option Document}
    {entries : List (String × Document)} :
    Document.Shows keys
        (s.fields ++ parameters.toList.map fun d => ("constructor_parameters", d)) entries ↔
      entries.filter (·.1 == "namespace") = [("namespace", .text s.scope)] ∧
        entries.filter (·.1 == "type_name") = [("type_name", .text s.name)] ∧
        entries.filter (·.1 == "constant_names") =
          [("constant_names", .list (s.constants.map .text))] ∧
        entries.filter (·.1 == "constructor_parameters") =
          parameters.toList.map fun d => ("constructor_parameters", d) := by
  rw [Document.shows_iff (by cases parameters <;> simp [fields, keys])]
  cases parameters <;> simp [keys, fields]

theorem parametersOf?_eq_some_iff {d? : Option Document} {ps : List Parameter} :
    parametersOf? d? = some ps ↔ Parameter.Forms ps d? := by
  constructor
  · intro h
    unfold parametersOf? at h
    split at h
    next =>
      obtain rfl := Option.some.inj h
      exact .missing
    next items =>
      have hitems := mapM_eq_some_iff.mp h
      simp only [Parameter.ofDocument?_eq_some_iff] at hitems
      exact .list hitems.flip
    next => cases h
  · intro h
    cases h with
    | missing => rfl
    | list h =>
      rw [parametersOf?, mapM_eq_some_iff]
      simp only [Parameter.ofDocument?_eq_some_iff]
      exact h.flip

theorem ofValues?_eq_some_iff {scope name constants : Document} {parameters : Option Document}
    {s : Summary} :
    ofValues? scope name constants parameters = some s ↔
      scope = .text s.scope ∧ name = .text s.name ∧ constants = .list (s.constants.map .text) ∧
        Parameter.Forms s.parameters parameters := by
  simp only [ofValues?, Option.bind_eq_bind, Option.bind_eq_some_iff, Document.text?_eq_some_iff,
    Document.texts?_eq_some_iff, parametersOf?_eq_some_iff, Option.pure_def, Option.some.injEq]
  constructor
  · rintro ⟨_, rfl, _, rfl, _, rfl, ps, hps, rfl⟩
    exact ⟨rfl, rfl, rfl, hps⟩
  · rintro ⟨rfl, rfl, rfl, hps⟩
    exact ⟨_, rfl, _, rfl, _, rfl, _, hps, rfl⟩

/-- What is read is said by the document. -/
theorem form_of_ofDocument? {d : Document} {s : Summary} (h : ofDocument? d = some s) :
    s.Form d := by
  unfold ofDocument? at h
  split at h
  next scope name constants =>
    obtain ⟨rfl, rfl, rfl, hparameters⟩ := ofValues?_eq_some_iff.mp h
    exact .list hparameters
  next scope name constants parameters =>
    obtain ⟨rfl, rfl, rfl, hparameters⟩ := ofValues?_eq_some_iff.mp h
    exact .list hparameters
  next entries =>
    obtain ⟨scope, hscope, h⟩ := Option.bind_eq_some_iff.mp h
    obtain ⟨name, hname, h⟩ := Option.bind_eq_some_iff.mp h
    obtain ⟨constants, hconstants, h⟩ := Option.bind_eq_some_iff.mp h
    obtain ⟨parameters, hkey, h⟩ := Option.bind_eq_some_iff.mp h
    obtain ⟨rfl, rfl, rfl, hparameters⟩ := ofValues?_eq_some_iff.mp h
    rw [Document.value?_eq_some_iff] at hscope hname hconstants
    rw [Document.valueOrNone?_eq_some_iff] at hkey
    exact .object hparameters (shows_fields_iff.mpr ⟨hscope, hname, hconstants, hkey⟩)
  next => cases h

/-- What a document says is read from it. -/
theorem Form.ofDocument? {d : Document} {s : Summary} (h : s.Form d) :
    Summary.ofDocument? d = some s := by
  cases h with
  | @list parameters hparameters =>
    have hvalues := ofValues?_eq_some_iff.mpr ⟨rfl, rfl, rfl, hparameters⟩
    cases parameters with
    | none => exact hvalues
    | some d => exact hvalues
  | object hparameters h =>
    obtain ⟨hscope, hname, hconstants, hkey⟩ := shows_fields_iff.mp h
    rw [← Document.value?_eq_some_iff] at hscope hname hconstants
    rw [← Document.valueOrNone?_eq_some_iff] at hkey
    simp only [Summary.ofDocument?, hscope, hname, hconstants, hkey, Option.bind_eq_bind,
      Option.bind_some]
    exact ofValues?_eq_some_iff.mpr ⟨rfl, rfl, rfl, hparameters⟩

/-- A summary is written as one of its forms. -/
theorem form_toDocument (s : Summary) : s.Form s.toDocument := by
  have hitems : List.Forall₂ Parameter.Form s.parameters
      (s.parameters.map Parameter.toDocument) := by
    rw [List.forall₂_map_right_iff, List.forall₂_same]
    intro p _
    exact .object (.refl _ _)
  exact .object (.list hitems) (.refl _ _)

/-- Exactly the forms of a summary are read as it, and it is written as one of
them. -/
theorem ofDocument?_iff_form (s : Summary) :
    ofDocument? s.toDocument = some s ∧ ∀ d, ofDocument? d = some s ↔ s.Form d :=
  ⟨(form_toDocument s).ofDocument?, fun _ => ⟨form_of_ofDocument?, Form.ofDocument?⟩⟩

/-- The keys in another order, one that is unknown, and a parameter as a list. -/
example :
    ofDocument? (.object
      [("constructor_parameters", .list [.list [.text "year", .text "u16"]]), ("note", .other),
        ("constant_names", .list [.text "Q1"]), ("type_name", .text "Quarter"),
        ("namespace", .text "crate")]) =
      some ⟨"crate", "Quarter", ["Q1"], [⟨"year", "u16"⟩]⟩ := by
  decide +kernel

end Summary

end EnumCompanion
