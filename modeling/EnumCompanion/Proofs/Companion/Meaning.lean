import EnumCompanion.Companion.Meaning
import EnumCompanion.Companion.Text
import EnumCompanion.Proofs.Name.Identifiers
import EnumCompanion.Proofs.Summary.Defect

/-!
# `EnumCompanion.Proofs.Companion.Meaning`: a companion does what it is for

Each function of a companion binds names of its own beside names of the
enum. This module shows where they get in each other's way, which is in
one place only, and that the code means what it is written for everywhere
else.

* `exec_lookup_body`, `exec_lookup_body_of_hidden`: the variant that the
  loop of a lookup is at hides the argument if both are read as one
  identifier. The two names are different texts, and that is not enough.
* `exec_associate_body`: the variant that the closure is at hides neither
  the function nor what it gives.
* `resolve_tableName`: `Self::values()`, with as many underscores as it
  takes, is the private table, whatever the variants and parameters are
  called.
* `exec_forEach` and `pairUp_eq_transformAll`: what a loop and a closure
  do with all variants, by induction on them.
* `run_lookup`, `run_associate`, `run_enumList`, `call_table`: what a call
  of each function gives.
* `generate_serves`: the text for a summary without a defect is that of
  code that does all this, unless the enum's own name is a keyword. A
  lookup does if and only if its loop does not hide its argument.
-/

set_option autoImplicit false

namespace EnumCompanion.Companion

open Summary (isDeclarable)
open EnumCompanion.Text (canonical uncapitalize)

variable {α σ ρ : Type}

/-! ### Words that can be bound -/

/-- A word can be bound if it is no keyword, nor the underscore. -/
theorem isBindable_eq (w : String) :
    isBindable w = (!(isKeyword w || isPathKeyword w) && w != "_") := by
  have hunderscore : canonical w = "_" ↔ w = "_" := Text.canonical_eq_iff (by decide)
  rw [isBindable, Name.isKeyword_canonical, Name.isPathKeyword_canonical]
  congr 1
  rw [Bool.eq_iff_iff, bne_iff_ne, bne_iff_ne, Ne, Ne, hunderscore]

/-- No keyword is spelt like a raw name. -/
theorem not_keyword_of_hash {w : String} (h : '#' ∈ w.toList) :
    isKeyword w = false ∧ isPathKeyword w = false := by
  have none : (keywords ++ pathKeywords).all (fun k => !k.toList.contains '#') = true := by
    rfl
  have hnot : w ∉ keywords ++ pathKeywords := by
    intro hmem
    have := List.all_eq_true.mp none w hmem
    simp [h] at this
  simpa [isKeyword, isPathKeyword] using hnot

/-- The word of a declarable name can be bound. -/
theorem isBindable_spelling {n : String} (h : isDeclarable n = true) :
    isBindable (Name.spelling n) = true := by
  rw [isBindable_eq]
  unfold Name.spelling
  split
  next hkeyword =>
    have hhash : '#' ∈ ("r#" ++ n).toList := by simp
    obtain ⟨h₁, h₂⟩ := not_keyword_of_hash hhash
    have h₃ : "r#" ++ n ≠ "_" := by
      intro heq
      rw [heq] at hhash
      revert hhash
      decide
    simp [h₁, h₂, h₃]
  next hkeyword =>
    have h₁ := Summary.isPathKeyword_of_isDeclarable h
    have h₂ := Name.ne_underscore (Summary.isIdentifier_of_isDeclarable h)
    simp [hkeyword, h₁, h₂]

/-- A local name is written as it is. -/
theorem spelling_fresh (base : String) (taken : List String) :
    Name.spelling (Name.fresh base taken) = Name.fresh base taken :=
  Name.spelling_of_not_isKeyword (Name.isKeyword_fresh base taken)

/-- A local name made from that of an enum can be bound. -/
theorem isBindable_fresh {n : String} (h : isDeclarable n = true) (taken : List String) :
    isBindable (Name.spelling (Name.fresh (uncapitalize n) taken)) = true := by
  have h₁ := Name.isKeyword_fresh (uncapitalize n) taken
  have h₂ := Name.isPathKeyword_fresh (uncapitalize n) taken
  have h₃ : Name.fresh (uncapitalize n) taken ≠ "_" :=
    Name.fresh_ne_underscore
      (Name.uncapitalize_ne_empty (Summary.isIdentifier_of_isDeclarable h))
      (Name.uncapitalize_ne_underscore (Summary.isIdentifier_of_isDeclarable h)) taken
  rw [spelling_fresh, isBindable_eq]
  simp [h₁, h₂, h₃]

/-- A declarable name has no hash. -/
theorem hash_not_mem {n : String} (h : isDeclarable n = true) : '#' ∉ n.toList :=
  Name.mark_not_mem (Summary.isIdentifier_of_isDeclarable h) (by decide)

/-- A declarable name is read as its canonical form. -/
theorem identifier_eq {n : String} (h : isDeclarable n = true) :
    Name.identifier n = canonical n :=
  Name.identifier_of_not_mem (hash_not_mem h)

/-! ### The members -/

/-- The name of the private table begins as its base does. -/
theorem head?_tableName (s : Summary) : (tableName s).toList.head? = some 'v' := by
  obtain ⟨k, -, heq, -⟩ := Name.exists_fresh_eq_padded "values" s.constants
  rw [tableName, heq, Name.toList_padded]
  rfl

/-- A word that begins with another character is not the name of the private
table. -/
theorem ne_tableName {x : String} {c : Char} (hx : x.toList.head? = some c) (hc : c ≠ 'v')
    (s : Summary) : x ≠ tableName s := by
  rintro rfl
  rw [head?_tableName] at hx
  exact hc (Option.some.inj hx).symm

/-- The name of the private table has steady characters only. -/
theorem isSteady_tableName (s : Summary) : Text.IsSteady (tableName s).toList :=
  Name.isSteady_fresh (by decide) _

/-- The name of the private table is read as it is written. -/
theorem ofSpelling_tableName (s : Summary) : Name.ofSpelling (tableName s) = tableName s := by
  have hhead : (tableName s).toList.head? ≠ some 'r' := by
    rw [head?_tableName]
    decide
  rw [Name.ofSpelling_of_head hhead, Text.canonical_of_ascii (isSteady_tableName s).isAscii]

/-- The type parameter of `associate` has steady characters only. -/
theorem isSteady_genericName (s : Summary) : Text.IsSteady (genericName s).toList :=
  Name.isSteady_fresh (by decide) _

/-- The type parameter of `associate` is read as it is written. -/
theorem ofSpelling_genericName (s : Summary) :
    Name.ofSpelling (genericName s) = genericName s := by
  have hhash : '#' ∉ (genericName s).toList := by
    intro hmem
    rcases Name.mem_fresh hmem with hbase | heq
    · exact absurd hbase (by decide)
    · cases heq
  rw [Name.ofSpelling_of_not_mem hhash, Text.canonical_of_ascii (isSteady_genericName s).isAscii]

/-- No constant is read as the name of the private table. -/
theorem tableName_not_mem {s : Summary} (hnames : ∀ n ∈ s.names, isDeclarable n = true) :
    tableName s ∉ s.constants.map Name.identifier := by
  intro hmem
  obtain ⟨v, hv, heq⟩ := List.mem_map.mp hmem
  have hhash := hash_not_mem (hnames v (Summary.mem_names_of_mem_constants hv))
  rw [Name.identifier_eq_iff (isSteady_tableName s) hhash] at heq
  exact Name.fresh_not_mem _ _ (heq ▸ hv)

/-- No lookup is read as the name of the private table. -/
theorem ofSpelling_lookup_ne_tableName (s : Summary) (p : String) :
    Name.ofSpelling (Name.lookup p) ≠ tableName s := by
  rw [Name.ofSpelling_lookup]
  exact ne_tableName (c := 'f') (by simp) (by decide) s

/-- The private table is the only member of its name. -/
theorem resolve_tableName (style : Style) {s : Summary}
    (hnames : ∀ n ∈ s.names, isDeclarable n = true) :
    (code style s).resolve (tableName s) = some (table s) := by
  have hconstants : ((code style s).constants.map Name.identifier).contains (tableName s) = false := by
    rw [← Bool.not_eq_true, List.contains_iff_mem]
    exact tableName_not_mem hnames
  have hlookups :
      (s.parameters.map (lookup style s)).filter (Name.ofSpelling ·.name == tableName s) = [] := by
    rw [List.filter_eq_nil_iff]
    intro f hf
    obtain ⟨p, -, rfl⟩ := List.mem_map.mp hf
    simpa [lookup] using ofSpelling_lookup_ne_tableName s p.name
  -- The name of the table begins with a `v`, and those of the other functions do not.
  have hassociate : Name.ofSpelling "associate" ≠ tableName s :=
    ne_tableName (c := 'a') (by decide +kernel) (by decide) s
  have henumList : Name.ofSpelling "enumList" ≠ tableName s :=
    ne_tableName (c := 'e') (by decide +kernel) (by decide) s
  have hfunctions :
      (code style s).functions.filter (Name.ofSpelling ·.name == tableName s) = [table s] := by
    simp [code, hlookups, associate, enumList, table, hassociate, henumList, ofSpelling_tableName]
  rw [Code.resolve, ofSpelling_tableName, hconstants, hfunctions]
  rfl

/-! ### What the members are for -/

/-- The answer of the lookup by a parameter: the first variant whose accessor
gives the argument, or the error. -/
def answer (t : Setting α σ ρ) (style : Style) (s : Summary) (p : Parameter) (a : α) :
    Value α ρ :=
  match s.constants.find? fun v => t.equals (t.get (Name.accessor p.name) v) a with
  | some v => .found v
  | none => .missing (missingPath style.runtime)

/-- The pairs of the variants with what a function gives for them, called for
one after the other, and the state it is left in. -/
def Setting.transformAll (t : Setting α σ ρ) : List String → σ → List (String × ρ) × σ
  | [], q => ([], q)
  | v :: rest, q =>
    let (r, q) := t.transform v q
    let (pairs, q) := t.transformAll rest q
    ((v, r) :: pairs, q)

/-- The function at the given place is the lookup by the parameter, and does
what it is for: it gives the answer for every argument. -/
def IsLookup (c : Code) (style : Style) (s : Summary) (t : Setting α σ ρ) (i : Nat)
    (p : Parameter) : Prop :=
  ∃ f, c.functions[i]? = some f ∧ f.name = Name.lookup p.name ∧
    f.binder = some ⟨false, p.name, p.type⟩ ∧
    ∀ a q, c.run t f (some (.data a)) q = some (answer t style s p a, q)

/-- What the other functions of a companion do when they do what they are
for. -/
structure Serves (c : Code) (s : Summary) (t : Setting α σ ρ) : Prop where
  /-- `associate` calls the function once for every variant, in order, and
  its type parameter does not hide the enum. -/
  associate : ∃ f ∈ c.functions, f.name = "associate" ∧
    (∃ g, f.generic = some g ∧ Name.ofSpelling g ≠ Name.ofSpelling s.name ∧
      f.binder = some ⟨true, "transform", "impl FnMut(&" ++ s.name ++ ") -> " ++ g⟩) ∧
    ∀ q, c.run t f (some .transform) q =
      some (.map (t.transformAll s.constants q).1, (t.transformAll s.constants q).2)
  /-- `enumList` gives the variants in order. -/
  enumList : ∃ f ∈ c.functions, f.name = "enumList" ∧ f.binder = none ∧
    ∀ q, c.run t f none q = some (.list s.constants, q)
  /-- The private table is of the declared length. -/
  table : ∃ f ∈ c.functions, f.name = tableName s ∧ f.binder = none ∧
    ∃ items : List String, (∀ q, c.run t f none q = some (.array items, q)) ∧
      f.type = "[" ++ s.name ++ "; " ++ Nat.repr items.length ++ "]"

/-! ### Loops -/

/-- A loop whose body ends the function at some variants ends it at the first
of them. -/
theorem eachVariant_eq_find? {body : String → σ → Option (Flow α ρ × σ)} {p : String → Bool}
    {locals : String → Scope α ρ}
    (hbody : ∀ v q, body v q =
      some (if p v then .returns (.found v) else .goesOn (locals v), q))
    (names : List String) (q : σ) :
    eachVariant body names q = some ((names.find? p).map .found, q) := by
  induction names with
  | nil => rfl
  | cons v rest ih =>
    unfold eachVariant
    rw [hbody]
    cases hp : p v with
    | true => simp [hp]
    | false => simpa [hp] using ih

/-- A loop over variants whose body ends the function at some of them. -/
theorem exec_forEach {t : Setting α σ ρ} {calls : Calls σ} {x : String} {items : Expr}
    {body : List Stmt} {locals : Scope α ρ} {names : List String} {q : σ}
    (hitems : items.eval t calls locals q = some (.array names, q))
    {p : String → Bool} {inner : String → Scope α ρ}
    (hbody : ∀ v q,
      ((locals.bind x (.variant v)).bind fun inner => execAll t calls body inner q) =
        some (if p v then .returns (.found v) else .goesOn (inner v), q)) :
    (Stmt.forEach x items body).exec t calls locals q =
      some (match names.find? p with
        | some v => .returns (.found v)
        | none => .goesOn locals, q) := by
  rw [Stmt.exec, hitems]
  simp only [eachVariant_eq_find? hbody]
  cases names.find? p <;> rfl

/-- A closure that gives each variant with the result of the function gives
all of them with their results. -/
theorem pairUp_eq_transformAll {t : Setting α σ ρ}
    {body : String → σ → Option (Flow α ρ × σ)}
    (hbody : ∀ v q, body v q =
      some (.gives (.pair v (t.transform v q).1), (t.transform v q).2))
    (names : List String) (q : σ) :
    pairUp body names q = some (t.transformAll names q) := by
  induction names generalizing q with
  | nil => rfl
  | cons v rest ih =>
    unfold pairUp
    rw [hbody]
    simp only [ih, Option.map_some]
    rfl

/-- A loop whose body has no meaning at the first variant has none. -/
theorem exec_forEach_of_none {t : Setting α σ ρ} {calls : Calls σ} {x : String} {items : Expr}
    {body : List Stmt} {locals : Scope α ρ} {v : String} {rest : List String} {q : σ}
    (hitems : items.eval t calls locals q = some (.array (v :: rest), q))
    (hbody :
      ((locals.bind x (.variant v)).bind fun inner => execAll t calls body inner q) = none) :
    (Stmt.forEach x items body).exec t calls locals q = none := by
  simp only [Stmt.exec, hitems, eachVariant, hbody]

/-! ### Calls -/

section Calls

variable {style : Style} {s : Summary} {t : Setting α σ ρ}
  (hnames : ∀ n ∈ s.names, isDeclarable n = true) (hkeyword : isKeyword s.name = false)
  (henum : t.enumName = s.name)

include hnames hkeyword henum

/-- The array of the variants has a meaning. -/
theorem eval_variants (calls : Calls σ) (locals : Scope α ρ) (q : σ) :
    (Expr.variants s.name s.constants).eval t calls locals q = some (.array s.constants, q) := by
  have hspelling : Name.spelling s.name = s.name := Name.spelling_of_not_isKeyword hkeyword
  have hname : isBindable s.name = true := by
    rw [← hspelling]
    exact isBindable_spelling (hnames _ s.name_mem_names)
  have hread : Name.ofSpelling s.name = Name.identifier s.name := by
    rw [Name.identifier, hspelling]
  have hconstants : s.constants.all (fun n => !isPathKeyword (canonical n)) = true := by
    rw [List.all_eq_true]
    intro v hv
    rw [Name.isPathKeyword_canonical,
      Summary.isPathKeyword_of_isDeclarable (hnames v (Summary.mem_names_of_mem_constants hv))]
    rfl
  simp [Expr.eval, hname, hread, hconstants, henum]

/-- A call of the private table gives the variants. -/
theorem call_table (calls : Calls σ) (q : σ) :
    (table s).call t calls none q = some (.array s.constants, q) := by
  simp [Function.call, Function.scope, table, execAll, Stmt.exec,
    eval_variants hnames hkeyword henum]

variable (style) in
/-- Inside a companion the private table gives the variants. -/
theorem eval_table (locals : Scope α ρ) (q : σ) :
    (Expr.table (tableName s)).eval t ((code style s).calls t (code style s).functions.length)
      locals q = some (.array s.constants, q) := by
  -- There are functions, so calls are at least one deep.
  obtain ⟨depth, hdepth⟩ : ∃ depth, (code style s).functions.length = depth + 1 :=
    ⟨s.parameters.length + 2, by simp [code]⟩
  rw [Expr.eval, hdepth, Code.calls, resolve_tableName style hnames, Option.bind_some,
    call_table hnames hkeyword henum]
  rfl

omit hkeyword henum in
/-- The body of a lookup's loop ends the function at a variant whose accessor
gives the argument, unless the loop hides the argument. -/
theorem exec_lookup_body {p : Parameter}
    (hapart : Name.identifier (loopName s p) ≠ Name.identifier p.name) (calls : Calls σ) (a : α)
    (v : String) (q : σ) :
    ((Scope.bind [(Name.identifier p.name, .data a)] (loopName s p) (.variant v)).bind
        fun inner => execAll t calls
          [.ifThen (.equal (.access (loopName s p) (Name.accessor p.name)) (.name p.name))
            [.giveBack (.found (.name (loopName s p)))]] inner q) =
      some (if t.equals (t.get (Name.accessor p.name) v) a then .returns (.found v)
        else .goesOn [(Name.identifier (loopName s p), .variant v),
          (Name.identifier p.name, .data a)], q) := by
  have hbindable : isBindable (Name.spelling (loopName s p)) = true :=
    isBindable_fresh (hnames _ s.name_mem_names) _
  have hne : (Name.identifier p.name == Name.identifier (loopName s p)) = false :=
    beq_eq_false_iff_ne.mpr hapart.symm
  cases hequal : t.equals (t.get (Name.accessor p.name) v) a <;>
    simp [Scope.bind, execAll, Stmt.exec, Expr.eval, List.lookup_cons, hbindable, hne, hequal]

omit hkeyword henum in
/-- If the loop hides the argument, its body compares a variant where the
argument should be, and that has no meaning. -/
theorem exec_lookup_body_of_hidden {p : Parameter}
    (hhidden : Name.identifier (loopName s p) = Name.identifier p.name) (calls : Calls σ) (a : α)
    (v : String) (q : σ) :
    ((Scope.bind [(Name.identifier p.name, .data a)] (loopName s p) (.variant v)).bind
        fun inner => execAll t calls
          [.ifThen (.equal (.access (loopName s p) (Name.accessor p.name)) (.name p.name))
            [.giveBack (.found (.name (loopName s p)))]] inner q) = (none : Option (Flow α ρ × σ)) := by
  have hbindable : isBindable (Name.spelling (loopName s p)) = true :=
    isBindable_fresh (hnames _ s.name_mem_names) _
  simp [Scope.bind, execAll, Stmt.exec, Expr.eval, hbindable, hhidden]

omit hkeyword henum in
/-- A lookup binds its argument. -/
theorem scope_lookup {p : Parameter} (hp : p ∈ s.parameters) (a : α) :
    (lookup style s p).scope (some (.data a)) =
      some [(Name.identifier p.name, (.data a : Value α ρ))] := by
  have hdeclarable := hnames _ (Summary.mem_names_of_mem_parameters hp)
  simp [Function.scope, lookup, Scope.bind, isBindable_spelling hdeclarable]

/-- A call of a lookup gives the answer for its argument, if there is no
variant or the loop does not hide the argument. -/
theorem run_lookup {p : Parameter} (hp : p ∈ s.parameters)
    (h : s.constants = [] ∨ Name.identifier (loopName s p) ≠ Name.identifier p.name) (a : α)
    (q : σ) :
    (code style s).run t (lookup style s p) (some (.data a)) q =
      some (answer t style s p a, q) := by
  have hitems := eval_table style hnames hkeyword henum
    [(Name.identifier p.name, .data a)] q
  rw [Code.run, Function.call, scope_lookup hnames hp, Option.bind_some, lookup, execAll]
  rcases h with hnone | hapart
  · -- The loop is over nothing, whatever its body is.
    rw [hnone] at hitems
    rw [Stmt.exec, hitems, answer, hnone]
    rfl
  · rw [exec_forEach hitems (exec_lookup_body hnames hapart _ a), answer]
    cases s.constants.find? fun v => t.equals (t.get (Name.accessor p.name) v) a <;> rfl

/-- A call of a lookup has no meaning if there are variants and the loop hides
the argument. -/
theorem run_lookup_of_hidden {p : Parameter} (hp : p ∈ s.parameters) (hne : s.constants ≠ [])
    (hhidden : Name.identifier (loopName s p) = Name.identifier p.name) (a : α) (q : σ) :
    (code style s).run t (lookup style s p) (some (.data a)) q = none := by
  have hitems := eval_table style hnames hkeyword henum
    [(Name.identifier p.name, .data a)] q
  obtain ⟨v, rest, hconstants⟩ := List.exists_cons_of_ne_nil hne
  rw [hconstants] at hitems
  rw [Code.run, Function.call, scope_lookup hnames hp, Option.bind_some, lookup, execAll,
    exec_forEach_of_none hitems (exec_lookup_body_of_hidden hnames hhidden _ a v q)]

omit hkeyword henum in
/-- The body of the closure in `associate` gives a variant with what the
function gives for it. -/
theorem exec_associate_body (calls : Calls σ) (v : String) (q : σ) :
    ((Scope.bind [("transform", .transform)] (itemName s) (.variant v)).bind fun inner =>
        execAll t calls
          [.bind "value" (.applied "transform" (itemName s)),
            .result (.pair (itemName s) "value")] inner q) =
      some (.gives (.pair v (t.transform v q).1), (t.transform v q).2) := by
  have hdeclarable := hnames _ s.name_mem_names
  have hbindable : isBindable (Name.spelling (itemName s)) = true := isBindable_fresh hdeclarable _
  have hhash : '#' ∉ (itemName s).toList :=
    Name.hash_not_mem_fresh (Summary.isIdentifier_of_isDeclarable hdeclarable) _
  -- The parameter of the closure hides neither the function nor the result, and the result
  -- does not hide the parameter: both words are read as nothing else.
  have hfree : itemName s ∉ ["transform", "value"] := Name.fresh_not_mem _ _
  have hother : ∀ w ∈ ["transform", "value"], Name.identifier (itemName s) ≠ w := by
    intro w hw
    have hsteady : ∀ w ∈ ["transform", "value"], Text.IsSteady w.toList := by decide
    rw [Ne, Name.identifier_eq_iff (hsteady w hw) hhash]
    rintro rfl
    exact hfree hw
  have htransform : ("transform" == Name.identifier (itemName s)) = false :=
    beq_eq_false_iff_ne.mpr (hother "transform" (by simp)).symm
  have hvalue : (Name.identifier (itemName s) == "value") = false :=
    beq_eq_false_iff_ne.mpr (hother "value" (by simp))
  have hwords : Name.ofSpelling "transform" = "transform" ∧ Name.identifier "value" = "value" ∧
      isBindable (Name.spelling "value") = true := by
    decide +kernel
  simp [Scope.bind, execAll, Stmt.exec, Expr.eval, List.lookup_cons, hbindable, hwords, htransform,
    hvalue]

/-- A call of `associate` pairs every variant with what the function gives for
it. -/
theorem run_associate (q : σ) :
    (code style s).run t (associate s) (some .transform) q =
      some (.map (t.transformAll s.constants q).1, (t.transformAll s.constants q).2) := by
  have hword : Name.identifier "transform" = "transform" ∧
      isBindable (Name.spelling "transform") = true := by
    decide +kernel
  have hscope : (associate s).scope (some .transform) =
      some [("transform", (.transform : Value α ρ))] := by
    simp [Function.scope, associate, Scope.bind, hword]
  have hitems := eval_table style hnames hkeyword henum [("transform", .transform)] q
  rw [Code.run, Function.call, hscope, Option.bind_some, associate, execAll, Stmt.exec, hitems]
  simp only [pairUp_eq_transformAll (exec_associate_body hnames _), Option.map_some]
  rfl

/-- A call of `enumList` gives the variants. -/
theorem run_enumList (q : σ) :
    (code style s).run t (enumList s) none q = some (.list s.constants, q) := by
  have hitems := eval_table style hnames hkeyword henum [] q
  rw [Code.run, Function.call, enumList]
  simp only [Function.scope, Option.bind_some, execAll, Stmt.exec, Expr.eval] at hitems ⊢
  rw [hitems]
  rfl

/-- The functions of a companion but for the lookups do what they are for. -/
theorem serves_code : Serves (code style s) s t where
  associate := by
    refine ⟨associate s, by simp [code], rfl, ⟨genericName s, rfl, ?_, rfl⟩,
      run_associate hnames hkeyword henum⟩
    -- The type parameter is made of steady characters, so it is read as nothing else.
    have hhash := hash_not_mem (hnames _ s.name_mem_names)
    rw [ofSpelling_genericName, Name.ofSpelling_of_not_mem hhash]
    intro heq
    have hname := (Text.canonical_eq_iff (isSteady_genericName s)).mp heq.symm
    exact List.ne_of_not_mem_cons (Name.fresh_not_mem _ _) hname.symm
  enumList :=
    ⟨enumList s, by simp [code], rfl, rfl, run_enumList hnames hkeyword henum⟩
  table :=
    ⟨table s, by simp [code], rfl, rfl, s.constants,
      call_table hnames hkeyword henum _, rfl⟩

variable (style) in
/-- The function at the place of a parameter is the lookup by it, and does what
it is for if and only if there is no variant or its loop does not hide the
argument. -/
theorem isLookup_code_iff [Nonempty α] [Nonempty σ] {i : Nat} {p : Parameter}
    (hp : s.parameters[i]? = some p) :
    IsLookup (code style s) style s t i p ↔
      s.constants = [] ∨ Name.identifier (loopName s p) ≠ Name.identifier p.name := by
  have hmem : p ∈ s.parameters := List.mem_of_getElem? hp
  have hplace : (code style s).functions[i]? = some (lookup style s p) := by
    have hi : i < s.parameters.length := (List.getElem?_eq_some_iff.mp hp).1
    rw [code, List.getElem?_append_left (by simpa using hi), List.getElem?_map, hp]
    rfl
  constructor
  · rintro ⟨f, hf, -, -, hrun⟩
    obtain rfl : lookup style s p = f := Option.some.inj (hplace.symm.trans hf)
    by_contra hnot
    rw [not_or, not_not] at hnot
    obtain ⟨a⟩ := ‹Nonempty α›
    obtain ⟨q⟩ := ‹Nonempty σ›
    have hanswer := hrun a q
    rw [run_lookup_of_hidden hnames hkeyword henum hmem hnot.1 hnot.2] at hanswer
    cases hanswer
  · intro h
    exact ⟨_, hplace, rfl, rfl, run_lookup hnames hkeyword henum hmem h⟩

end Calls

/-- What is written for a summary is code whose functions do what they are
for, whatever the accessors and the function give, and whatever equality says
of their values: `associate`, `enumList` and the table always, and the lookup by
a parameter if and only if there is no variant, or the argument and the loop
variable are read as two identifiers. They are if both are written in one
normal form, as the one is made to differ from the other. -/
theorem generate_serves [Nonempty α] [Nonempty σ] {style : Style} {s : Summary} {text : String}
    (h : generate style s = .ok text) (hkeyword : isKeyword s.name = false)
    (t : Setting α σ ρ) (henum : t.enumName = s.name) :
    text = (code style s).text style.indentWidth ∧ Serves (code style s) s t ∧
      ∀ (i : Nat) (p : Parameter), s.parameters[i]? = some p →
        ((∀ t' : Setting α σ ρ, t'.enumName = s.name → IsLookup (code style s) style s t' i p) ↔
          s.constants = [] ∨ Name.identifier (loopName s p) ≠ Name.identifier p.name) ∧
        ∀ normal : String → String, (∀ a b, canonical a = canonical b → normal a = normal b) →
          normal (loopName s p) = loopName s p → normal p.name = p.name →
            IsLookup (code style s) style s t i p := by
  obtain ⟨hdefect, htext⟩ := generate_ok_iff.mp h
  have hnames := ((Summary.defect?_eq_none_iff s).mp hdefect).2.2.1
  refine ⟨htext, serves_code hnames hkeyword henum, fun i p hp => ?_⟩
  have hmem := Summary.mem_names_of_mem_parameters (List.mem_of_getElem? hp)
  have hiff : ∀ t' : Setting α σ ρ, t'.enumName = s.name →
      (IsLookup (code style s) style s t' i p ↔
        s.constants = [] ∨ Name.identifier (loopName s p) ≠ Name.identifier p.name) :=
    fun _ henum' => isLookup_code_iff style hnames hkeyword henum' hp
  refine ⟨⟨fun hall => (hiff t henum).mp (hall t henum),
    fun hapart t' henum' => (hiff t' henum').mpr hapart⟩, ?_⟩
  intro normal hnormal hloop hparameter
  exact (hiff t henum).mpr (.inr (Name.identifier_fresh_ne hnormal
    (Summary.isIdentifier_of_isDeclarable (hnames _ s.name_mem_names))
    (hash_not_mem (hnames _ hmem)) hloop hparameter List.mem_cons_self))

/-- An enum with the names that the functions would use themselves, one of
them a keyword. -/
def clashing : Summary where
  scope := "crate"
  name := "Value"
  constants := ["values", "values_", "type"]
  parameters := [⟨"value", "f64"⟩, ⟨"Self_", "u8"⟩, ⟨"in", "u8"⟩]

/-- The function that counts its calls, and accessors with a value that is not
equal to itself. -/
def counting (enumName : String) : Setting (Option String) Nat Nat where
  enumName := enumName
  get _ v := if v = "type" then none else some v
  equals a b := a.isSome && a == b
  transform _ calls := (calls, calls + 1)

/-- The companion of an enum with such names does what it is for. -/
theorem clashing_serves :
    generate ⟨"::rt", 2⟩ clashing = .ok ((code ⟨"::rt", 2⟩ clashing).text 2) ∧
      Serves (code ⟨"::rt", 2⟩ clashing) clashing (counting "Value") ∧
      ∀ i p, clashing.parameters[i]? = some p →
        IsLookup (code ⟨"::rt", 2⟩ clashing) ⟨"::rt", 2⟩ clashing (counting "Value") i p := by
  have htext : generate ⟨"::rt", 2⟩ clashing = .ok ((code ⟨"::rt", 2⟩ clashing).text 2) :=
    generate_ok_iff.mpr ⟨by rfl, rfl⟩
  obtain ⟨-, hserves, hlookups⟩ := generate_serves htext (by rfl) (counting "Value") rfl
  have hnormal : ∀ p ∈ clashing.parameters,
      canonical (loopName clashing p) = loopName clashing p ∧ canonical p.name = p.name := by
    decide +kernel
  refine ⟨htext, hserves, fun i p hp => ?_⟩
  obtain ⟨hloop, hparameter⟩ := hnormal p (List.mem_of_getElem? hp)
  exact (hlookups i p hp).2 canonical (fun _ _ hsame => hsame) hloop hparameter

/-- An enum with a syllable in its name that is one character, and a parameter
with the two that it falls into. -/
def composed : Summary where
  scope := "crate"
  name := "A\uAC00"
  constants := ["A", "B"]
  parameters := [⟨"a\u1100\u1161", "u8"⟩]

/-- The loop variable that is made from the name is the same identifier as the
parameter, so the lookup by it does not do what it is for. -/
theorem composed_not_isLookup :
    generate {} composed = .ok ((code {} composed).text 4) ∧
      isKeyword composed.name = false ∧
      ¬ IsLookup (code {} composed) {} composed (counting "A\uAC00") 0
        ⟨"a\u1100\u1161", "u8"⟩ := by
  have hdefect : composed.defect? = none := by decide +kernel
  have hnames := ((Summary.defect?_eq_none_iff composed).mp hdefect).2.2.1
  have hkeyword : isKeyword composed.name = false := by decide +kernel
  refine ⟨generate_ok_iff.mpr ⟨hdefect, rfl⟩, hkeyword, ?_⟩
  rw [isLookup_code_iff _ hnames hkeyword rfl rfl, not_or, not_not]
  exact ⟨by decide, by decide +kernel⟩

end EnumCompanion.Companion
