import EnumCompanion.Proofs.Declaration.Named
import EnumCompanion.Proofs.Declaration.Summary
import EnumCompanion.Proofs.SourceText

/-!
# `EnumCompanion.Proofs.Declaration.Moved`: types in another block

The type of a parameter is written in a constructor, in a block of the enum,
and once more in a lookup, in the block of the companion. The words are the
same, but not all of them stand for the same thing: `Self` is the type that
a block belongs to, and the generic parameters of the constructor and of its
block are not there in the other block.

* `Site`, `Reading`: the place that a type is written in, and the type with
  each name read there.
* `readAll_eq_iff`: a type is read alike in two ways if and only if these
  agree on its names.
* `Moves`: what becomes of a type that is moved.
* `lookup_types_move`: the types of all lookups of a companion.
* `mergeText_changes_type`: `Self` is moved like any other name, and does not
  stand for the enum any more.
-/

set_option autoImplicit false

namespace EnumCompanion

/-! ### Names in a type -/

namespace Token

mutual

/-- The names in a token, keywords included. -/
def idents : Token → List Ident
  | .ident i => [i]
  | .literal _ => []
  | .punct _ _ => []
  | .group _ ts => identsOf ts

/-- The names in tokens. -/
def identsOf : List Token → List Ident
  | [] => []
  | t :: ts => t.idents ++ identsOf ts

end

mutual

/-- A respaced token has the same names. -/
theorem idents_respacedOne (touched : Bool) : ∀ t : Token, (t.respacedOne touched).idents = t.idents
  | .ident i => by rw [respacedOne]
  | .literal s => by rw [respacedOne]
  | .punct c s => by rw [respacedOne, idents, idents]
  | .group d ts => by rw [respacedOne, idents, idents, identsOf_respaced ts]

/-- Respacing keeps all names. -/
theorem identsOf_respaced : ∀ ts : List Token, identsOf (respaced ts) = identsOf ts
  | [] => by rw [respaced]
  | t :: ts => by
    rw [respaced, identsOf, identsOf, idents_respacedOne _ t, identsOf_respaced ts]

end

end Token

/-! ### What names stand for -/

/-- What a name in a type stands for. -/
inductive Referent where
  /-- What the name stands for in the module, outside of all blocks; a keyword
  stands for itself. -/
  | outer (name : String)
  /-- A generic parameter of the function or of its block. -/
  | generic (name : String)
  deriving DecidableEq, Repr

/-- The place that a type is written in: a function in an `impl` block. -/
structure Site where
  /-- The name of the type that the block belongs to. -/
  owner : String
  /-- The names of the generic parameters of the function and of the block. -/
  generics : List String
  deriving DecidableEq, Repr

namespace Site

/-- What a name stands for at a place. A generic parameter is found wherever its
name stands. -/
def referent (s : Site) (i : Ident) : Referent :=
  if i.text = "Self" then .outer s.owner
  else if i.name ∈ s.generics then .generic i.name
  else .outer i.name

/-- Where the constructors of an enum are written. -/
def constructor (enumName : String) (generics : List String) : Site :=
  ⟨enumName, generics⟩

/-- Where a function of a companion is written. The block has no generic
parameters. -/
def member (c : Companion.Code) (f : Companion.Function) : Site :=
  ⟨c.name, f.generic.toList⟩

/-- Where the lookups of the companion are written: they have no generic
parameters either. -/
def lookup (enumName : String) : Site :=
  ⟨Name.companion enumName, []⟩

theorem member_lookup (style : Companion.Style) (s : Summary) (p : Parameter) :
    member (Companion.code style s) (Companion.lookup style s p) = lookup s.name := rfl

/-- A name stands for the same in a constructor and in a lookup if and only if it
is neither `Self` nor a generic parameter. -/
theorem referent_lookup_iff (enumName : String) (generics : List String) (i : Ident) :
    (lookup enumName).referent i = (constructor enumName generics).referent i ↔
      i.text ≠ "Self" ∧ i.name ∉ generics := by
  unfold referent lookup constructor
  by_cases hself : i.text = "Self"
  · rw [if_pos hself, if_pos hself]
    refine iff_of_false ?_ fun h => h.1 hself
    intro heq
    have hlength := congrArg String.length (Referent.outer.inj heq)
    simp [Name.companion] at hlength
  · rw [if_neg hself, if_neg hself, if_neg (List.not_mem_nil)]
    by_cases hgeneric : i.name ∈ generics
    · rw [if_pos hgeneric]
      exact iff_of_false nofun fun h => h.2 hgeneric
    · rw [if_neg hgeneric]
      exact iff_of_true rfl ⟨hself, hgeneric⟩

end Site

/-! ### Reading a type -/

/-- A token with its names read. -/
inductive Reading where
  | name (r : Referent)
  | literal (spelling : String)
  | mark (c : Char) (spacing : Spacing)
  | group (d : Delimiter) (readings : List Reading)

namespace Token

mutual

/-- The token with its names read. -/
def read (ρ : Ident → Referent) : Token → Reading
  | .ident i => .name (ρ i)
  | .literal s => .literal s
  | .punct c s => .mark c s
  | .group d ts => .group d (readAll ρ ts)

/-- The tokens with their names read. -/
def readAll (ρ : Ident → Referent) : List Token → List Reading
  | [] => []
  | t :: ts => t.read ρ :: readAll ρ ts

end

variable {ρ σ : Ident → Referent}

mutual

/-- Two ways to read names read a token alike if and only if they agree on its
names. -/
theorem read_eq_iff : ∀ t : Token, t.read ρ = t.read σ ↔ ∀ i ∈ t.idents, ρ i = σ i
  | .ident i => by simp [read, idents]
  | .literal s => by simp [read, idents]
  | .punct c s => by simp [read, idents]
  | .group d ts => by simp [read, idents, readAll_eq_iff ts]

/-- So do they read tokens. -/
theorem readAll_eq_iff :
    ∀ ts : List Token, readAll ρ ts = readAll σ ts ↔ ∀ i ∈ identsOf ts, ρ i = σ i
  | [] => by simp [readAll, identsOf]
  | t :: ts => by
    rw [readAll, readAll, List.cons.injEq, read_eq_iff t, readAll_eq_iff ts, identsOf,
      List.forall_mem_append]

end

end Token

namespace SourceText

/-- What the text of a type stands for at a place, if it is one. -/
def reading? (s : Site) (text : String) : Option (List Reading) :=
  (typeTree? text).map fun t => Token.readAll s.referent t.tokens

end SourceText

open SourceText Companion

/-! ### Types that are moved -/

/-- What becomes of the type of an argument in a constructor of the enum, if the
given text is written for it at another place. -/
structure Moves (enumName : String) (a : Argument) (there : Site) (text : String) : Prop where
  /-- The text has the names of the type, in the same order and each as often,
  and no others. -/
  names : ∃ ts, Token.lex? text = some ts ∧ Token.wordsOf ts = Token.wordsOf a.type ∧
    Token.identsOf ts = Token.identsOf a.type
  /-- If the text is read as the type at all, it stands for the same there if and
  only if no name in it is `Self` or a generic parameter. -/
  meaning : (typeTree? text).map (·.tokens) = some a.type → ∀ generics,
    (reading? there text =
        some (Token.readAll (Site.constructor enumName generics).referent a.type) ↔
      ∀ i ∈ Token.identsOf a.type, i.text ≠ "Self" ∧ i.name ∉ generics)

/-- A type is moved to a lookup by writing its tokens on a line. -/
theorem Argument.moves_spelled {a : Argument} (h : Token.AreClean a.type) (enumName : String) :
    Moves enumName a (.lookup enumName) (Token.spelled a.type) where
  names := ⟨Token.respaced a.type, Token.lex?_spelled h, Token.wordsOf_respaced a.type,
    Token.identsOf_respaced a.type⟩
  meaning := by
    intro hback generics
    obtain ⟨t, ht, htokens⟩ := Option.map_eq_some_iff.mp hback
    have hreading : reading? (.lookup enumName) (Token.spelled a.type) =
        some (Token.readAll (Site.lookup enumName).referent a.type) := by
      rw [reading?, ht, Option.map_some, htokens]
    rw [hreading, Option.some.injEq, Token.readAll_eq_iff]
    exact forall₂_congr fun i _ => Site.referent_lookup_iff enumName generics i

/-- The parameters of a function are its arguments, in order, with the lines of
their types. -/
theorem Method.forall₂_plainParameters {m : Method} (h : m.IsPlain) :
    List.Forall₂ (fun a p => p.type = Token.spelled a.type) m.arguments m.plainParameters := by
  unfold Method.IsPlain at h
  unfold Method.plainParameters
  revert h
  induction m.arguments with
  | nil => exact fun _ => .nil
  | cons a rest ih =>
    intro h
    obtain ⟨hname, hrest⟩ := List.forall_mem_cons.mp h
    obtain ⟨name, hname⟩ := Option.isSome_iff_exists.mp hname
    have hparameter : a.parameter? = some ⟨name.name, Token.spelled a.type⟩ := by
      rw [Argument.parameter?, hname, Option.map_some]
    rw [List.filterMap_cons_some hparameter]
    exact .cons rfl (ih hrest)

/-- So are the parameters of functions, one after the other. -/
theorem forall₂_flatMap_plainParameters {ms : List Method} (h : ∀ m ∈ ms, m.IsPlain) :
    List.Forall₂ (fun a p => p.type = Token.spelled a.type) (ms.flatMap Method.arguments)
      (ms.flatMap Method.plainParameters) := by
  induction ms with
  | nil => exact .nil
  | cons m rest ih =>
    obtain ⟨hm, hrest⟩ := List.forall_mem_cons.mp h
    exact List.rel_append (Method.forall₂_plainParameters hm) (ih hrest)

namespace Declaration

/-- The arguments of the constructors of a declaration have types that the lexer
has read. -/
theorem IsNamed.areClean {d : Declaration} (h : d.IsNamed) (name : Ident) :
    ∀ a ∈ (constructors name d.blocks).flatMap Method.arguments, Token.AreClean a.type := by
  intro a ha
  obtain ⟨m, hm, ha⟩ := List.mem_flatMap.mp ha
  obtain ⟨b, hb, hm⟩ := List.mem_flatMap.mp (List.mem_filter.mp hm).1
  exact (h.blocks b hb m hm a ha).clean

/-- The lookups of a companion take the arguments of the constructors, in order,
and the type of each is moved. -/
theorem lookup_types_move {text marker scope : String} {items : List Item}
    (hfile : SourceText.file? text = some items)
    (hscope : ∀ g ∈ ModulePath.segments scope, Name.isIdentifier g = true) {d : Declaration}
    (hd : d ∈ (Scan.file marker scope items).declarations) {style : Style} {c : Companion}
    (h : d.companion? style = .ok (some c)) :
    ∃ name, d.item.name? = some name ∧
      c.text = (code style c.summary).text style.indentWidth ∧
      List.Forall₂
        (fun a f => ∃ b ∈ f.binder,
          Moves name.name a (.member (code style c.summary) f) b.type)
        ((constructors name d.blocks).flatMap Method.arguments)
        (c.summary.parameters.map (lookup style c.summary)) := by
  obtain ⟨⟨name, hsummary⟩, htext⟩ := companion?_eq_some_iff.mp h
  obtain ⟨attributes, isGeneric, variants, head, body, hitem, henum⟩ := hsummary.item
  obtain ⟨-, -, hplain, hs⟩ := enumSummary_eq_ok_iff.mp henum
  refine ⟨name, by rw [hitem]; rfl, (generate_ok_iff.mp htext).2, ?_⟩
  have hclean := (Scan.isNamed_of_mem_file hfile hscope hd).areClean name
  have hparameters : c.summary.parameters =
      (constructors name d.blocks).flatMap Method.plainParameters := by
    rw [hs]
    rfl
  have hlines := forall₂_flatMap_plainParameters hplain
  rw [← hparameters] at hlines
  rw [List.forall₂_map_right_iff]
  refine ((List.forall₂_and_left _ _).mpr ⟨hclean, hlines⟩).imp ?_
  rintro a p ⟨ha, htype⟩
  refine ⟨⟨false, p.name, p.type⟩, rfl, ?_⟩
  rw [Site.member_lookup, hsummary.scope_name.2, htype]
  exact Argument.moves_spelled ha name.name

/-! ### A type that stays and one that changes -/

/-- The name that tokens are, if they are a single one. -/
def nameAlone? : List Token → Option Ident
  | [.ident i] => some i
  | _ => none

theorem eq_of_nameAlone? {ts : List Token} {i : Ident} (h : nameAlone? ts = some i) :
    ts = [.ident i] := by
  unfold nameAlone? at h
  split at h
  · rw [Option.some.inj h]
  · cases h

/-- The types of the arguments that the constructors of an enum take, if each
is a name, and the summary of its companion. -/
def movedNames (d : Declaration) (name : Ident) : List (Option Ident) × Option Summary :=
  (((constructors name d.blocks).flatMap Method.arguments).map fun a => nameAlone? a.type,
    (d.companion? {}).toOption.join.map (·.summary))

theorem movedNames_eq {d : Declaration} {name i : Ident} {s : Summary}
    (h : d.movedNames name = ([some i], some s)) :
    ∃ c a, d.companion? {} = .ok (some c) ∧
      (constructors name d.blocks).flatMap Method.arguments = [a] ∧ a.type = [.ident i] ∧
      c.summary = s := by
  obtain ⟨harguments, hcompanion⟩ := Prod.mk.inj h
  obtain ⟨a, ha, htype⟩ := List.map_eq_singleton_iff.mp harguments
  obtain ⟨c, hc, hsummary⟩ := Option.map_eq_some_iff.mp hcompanion
  refine ⟨c, a, ?_, ha, eq_of_nameAlone? htype, hsummary⟩
  cases hresult : d.companion? {} with
  | error e => rw [hresult] at hc; cases hc
  | ok c? =>
    rw [hresult] at hc
    exact congrArg Except.ok hc

/-- An enum with a constructor that takes a number. -/
def codeText : String :=
  "#[companion] enum A \x7b V \x7d impl A \x7b fn new(code: u8) -> Self \x7b A::V \x7d \x7d"

/-- The type of the number stands for the same in the lookup. -/
theorem codeText_keeps_type :
    ∃ items d c a,
      SourceText.file? codeText = some items ∧
      (Scan.file "companion" "crate" items).declarations = [d] ∧
      d.companion? {} = .ok (some c) ∧
      (constructors (.plain "A") d.blocks).flatMap Method.arguments = [a] ∧
      c.summary = ⟨"crate", "A", ["V"], [⟨"code", "u8"⟩]⟩ ∧
      reading? (.lookup "A") "u8" =
        some (Token.readAll (Site.constructor "A" ["T"]).referent a.type) := by
  have hfound : ((SourceText.file? codeText).map fun items =>
      (Scan.file "companion" "crate" items).declarations.map fun d =>
        (d.item.name?, d.movedNames (.plain "A"))) =
      some [(some (.plain "A"), [some (.plain "u8")],
        some ⟨"crate", "A", ["V"], [⟨"code", "u8"⟩]⟩)] := by
    decide +kernel
  obtain ⟨items, hfile, hfound⟩ := Option.map_eq_some_iff.mp hfound
  obtain ⟨d, hd, hfound⟩ := List.map_eq_singleton_iff.mp hfound
  obtain ⟨hname, hmoved⟩ := Prod.mk.inj hfound
  obtain ⟨c, a, hcompanion, ha, htype, hsummary⟩ := movedNames_eq hmoved
  have hmem : d ∈ (Scan.file "companion" "crate" items).declarations := by
    rw [hd]
    exact List.mem_cons_self
  obtain ⟨name, hname', -, hmoves⟩ := lookup_types_move hfile (by decide) hmem hcompanion
  obtain rfl := Option.some.inj (hname'.symm.trans hname)
  rw [ha, hsummary] at hmoves
  obtain ⟨_, ⟨⟩, hmoves⟩ := (List.forall₂_cons.mp hmoves).1
  have hback : (typeTree? "u8").map (·.tokens) = some a.type := by
    rw [htype]
    rfl
  refine ⟨items, d, c, a, hfile, hd, hcompanion, ha, hsummary, ?_⟩
  refine (hmoves.meaning hback ["T"]).mpr ?_
  rw [htype]
  intro i hi
  obtain rfl := List.mem_singleton.mp hi
  exact ⟨by decide, by decide⟩

/-- An enum with a constructor that takes a value of it. -/
def mergeText : String :=
  "#[companion] enum A \x7b V \x7d impl A \x7b fn merge(other: Self) -> Self \x7b other \x7d \x7d"

/-- The lookup takes `Self` as well, which is the companion there. -/
theorem mergeText_changes_type :
    ∃ items d c a,
      SourceText.file? mergeText = some items ∧
      (Scan.file "companion" "crate" items).declarations = [d] ∧
      d.companion? {} = .ok (some c) ∧
      (constructors (.plain "A") d.blocks).flatMap Method.arguments = [a] ∧
      c.summary = ⟨"crate", "A", ["V"], [⟨"other", "Self"⟩]⟩ ∧
      Token.readAll (Site.constructor "A" []).referent a.type = [.name (.outer "A")] ∧
      reading? (.lookup "A") "Self" = some [.name (.outer "A_")] := by
  have hfound : ((SourceText.file? mergeText).map fun items =>
      (Scan.file "companion" "crate" items).declarations.map fun d =>
        d.movedNames (.plain "A")) =
      some [([some (.plain "Self")],
        some ⟨"crate", "A", ["V"], [⟨"other", "Self"⟩]⟩)] := by
    decide +kernel
  obtain ⟨items, hfile, hfound⟩ := Option.map_eq_some_iff.mp hfound
  obtain ⟨d, hd, hmoved⟩ := List.map_eq_singleton_iff.mp hfound
  obtain ⟨c, a, hcompanion, ha, htype, hsummary⟩ := movedNames_eq hmoved
  refine ⟨items, d, c, a, hfile, hd, hcompanion, ha, hsummary, ?_, by rfl⟩
  rw [htype]
  rfl

end Declaration

end EnumCompanion
