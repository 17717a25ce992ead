import EnumCompanion.Proofs.Companion.Layout
import EnumCompanion.Proofs.Name.Letters
import EnumCompanion.Proofs.Name.Segments
import EnumCompanion.Proofs.Summary.Defect

/-!
# `EnumCompanion.Proofs.Companion.Readback`: a companion tells its summary

Two summaries with the same companion are the same. The proof reads the
text from the left, as a reader would: a name ends at the first mark that
no name holds, the constants end where a line is none of theirs, and the
lookups end at `associate`.

A parameter's type may hold any mark, so it has no end of its own. It ends
where the rest of its line begins, and that is known by then: it is the
same for both summaries.

* `append_inj_of_head?`: a text before the first of some character.
* `constantLines_injective`, `functionLines_injective`: the constants and
  the lookups, by induction on both lists.
* `generate_injective`: the whole summary.
-/

set_option autoImplicit false

namespace EnumCompanion.Companion

/-! ### Texts with an end -/

/-- Where two texts agree, so does what stands before the first `c` of each,
and what follows. -/
theorem append_cons_inj {c : Char} {x y r r' : List Char} (hx : c ∉ x) (hy : c ∉ y)
    (h : x ++ c :: r = y ++ c :: r') : x = y ∧ r = r' := by
  induction x generalizing y with
  | nil =>
    cases y with
    | nil => exact ⟨rfl, (List.cons.inj h).2⟩
    | cons d y => exact absurd ((List.cons.inj h).1 ▸ List.mem_cons_self) hy
  | cons d x ih =>
    cases y with
    | nil => exact absurd ((List.cons.inj h).1 ▸ List.mem_cons_self) hx
    | cons e y =>
      obtain ⟨rfl, htail⟩ := List.cons.inj h
      obtain ⟨rfl, rfl⟩ := ih (fun hmem => hx (List.mem_cons_of_mem _ hmem))
        (fun hmem => hy (List.mem_cons_of_mem _ hmem)) htail
      exact ⟨rfl, rfl⟩

/-- Two words that hold no `c`, each before a text that begins with it. -/
theorem append_inj_of_head? {c : Char} {x y k k' : String} (hx : c ∉ x.toList)
    (hy : c ∉ y.toList) (hk : k.toList.head? = some c) (hk' : k'.toList.head? = some c)
    (h : x ++ k = y ++ k') : x = y ∧ k = k' := by
  obtain ⟨r, hr⟩ := List.head?_eq_some_iff.mp hk
  obtain ⟨r', hr'⟩ := List.head?_eq_some_iff.mp hk'
  have hlist := congrArg String.toList h
  rw [String.toList_append, String.toList_append, hr, hr'] at hlist
  obtain ⟨hxy, hrest⟩ := append_cons_inj hx hy hlist
  refine ⟨String.toList_inj.mp hxy, String.toList_inj.mp ?_⟩
  rw [hr, hr', hrest]

/-- Two texts without a line feed, before one text that holds one: they are
the same, and so is what follows. They may hold whatever the text after
them holds, so it is the text up to its line feed that is cut off. -/
theorem append_inj_of_lineFeed {x y k r r' : String} (hx : '\n' ∉ x.toList)
    (hy : '\n' ∉ y.toList) (hk : '\n' ∈ k.toList) (h : x ++ (k ++ r) = y ++ (k ++ r')) :
    x = y ∧ r = r' := by
  obtain ⟨before, after, hsplit, hbefore⟩ := List.eq_append_cons_of_mem hk
  have hlist := congrArg String.toList h
  simp only [String.toList_append, hsplit, List.append_assoc, List.cons_append] at hlist
  rw [← List.append_assoc, ← List.append_assoc] at hlist
  obtain ⟨hword, hrest⟩ := append_cons_inj
    (by simp [hx, hbefore]) (by simp [hy, hbefore]) hlist
  exact ⟨String.toList_inj.mp (List.append_cancel_right hword),
    String.toList_inj.mp (List.append_cancel_left hrest)⟩

/-! ### Constants -/

/-- What follows the constants: a function, perhaps behind a blank line. -/
def BeginsFunction (width : Nat) (text : String) : Prop :=
  ∃ blank rest, (blank = "" ∨ blank = "\n") ∧
    text = blank ++ (String.ofList (List.replicate width ' ') ++ ("pub fn " ++ rest))

/-- A spelling holds no colon. -/
theorem colon_not_mem_spelling {n : String} (h : Name.isIdentifier n = true) :
    ':' ∉ (Name.spelling n).toList :=
  Name.mark_not_mem_spelling h (by decide) (by decide)

/-- The line of a constant is no function. -/
theorem constantLines_cons_ne {width : Nat} {n : String} {ns : List String} {f g : String}
    (hg : BeginsFunction width g) : constantLines width (n :: ns) ++ f ≠ g := by
  obtain ⟨blank, rest, hblank, rfl⟩ := hg
  intro h
  have hlist := congrArg String.toList h
  -- Behind the indent one says `const` and the other `fn`.
  rcases hblank with rfl | rfl
  · simp [constantLines, constantLine] at hlist
  · cases width <;> simp [constantLines, constantLine, List.replicate_succ] at hlist

/-- The constants can be read back, and so can what follows. -/
theorem constantLines_injective {width : Nat} {ns ms : List String} {f g : String}
    (hns : ∀ n ∈ ns, Name.isIdentifier n = true) (hms : ∀ n ∈ ms, Name.isIdentifier n = true)
    (hf : BeginsFunction width f) (hg : BeginsFunction width g)
    (h : constantLines width ns ++ f = constantLines width ms ++ g) : ns = ms ∧ f = g := by
  induction ns generalizing ms with
  | nil =>
    cases ms with
    | nil => exact ⟨rfl, by simpa [constantLines] using h⟩
    | cons m ms =>
      rw [constantLines, String.empty_append] at h
      exact absurd h.symm (constantLines_cons_ne hf)
  | cons n ns ih =>
    cases ms with
    | nil =>
      rw [show constantLines width [] = "" from rfl, String.empty_append] at h
      exact absurd h (constantLines_cons_ne hg)
    | cons m ms =>
      have hn := hns n List.mem_cons_self
      have hm := hms m List.mem_cons_self
      simp only [constantLines, constantLine, String.append_assoc, String.append_right_inj] at h
      -- The name ends at the colon; the rest of its line depends on nothing else.
      obtain ⟨hname, hrest⟩ := append_inj_of_head? (colon_not_mem_spelling hn)
        (colon_not_mem_spelling hm) (by simp) (by simp) h
      obtain rfl := Name.spelling_injective (Name.mark_not_mem hn (by decide))
        (Name.mark_not_mem hm (by decide)) hname
      simp only [String.append_right_inj] at hrest
      obtain ⟨rfl, rfl⟩ := ih (fun k hk => hns k (List.mem_cons_of_mem _ hk))
        (fun k hk => hms k (List.mem_cons_of_mem _ hk)) hrest
      exact ⟨rfl, rfl⟩

/-! ### Lookups -/

/-- What stands behind the type of the parameter on the first line of a
lookup, up to the line's end. -/
def lookupRest (style : Style) (s : Summary) : String :=
  ") -> " ++ (resultPath ++ "<" ++ s.name ++ ", " ++ missingPath style.runtime ++ ">") ++ " \x7b\n"

/-- The lines of a lookup. -/
theorem block_lookup (style : Style) (s : Summary) (p : Parameter) (width : Nat) :
    (lookup style s p).block width =
      String.ofList (List.replicate width ' ') ++ ("pub fn " ++ ("from" ++
        (Text.capitalize p.name ++ ("(" ++ (Name.spelling p.name ++ (": " ++ (p.type ++
          (lookupRest style s ++ (lookup style s p).tail width)))))))) := by
  simp [Function.block, Function.header, lookup, Binder.text, Name.lookup, lookupRest,
    String.append_assoc]

/-- The lines of a function that can be called from outside. -/
theorem block_exported {f : Function} (h : f.exported = true) (width : Nat) :
    ∃ rest, f.block width =
      String.ofList (List.replicate width ' ') ++ ("pub fn " ++ (f.name ++ rest)) := by
  refine ⟨f.generic.elim "" (fun g => "<" ++ g ++ ">") ++ ("(" ++
    (f.binder.elim "" Binder.text ++ (") -> " ++ (f.type ++ (" \x7b\n" ++
      f.tail width))))), ?_⟩
  simp only [Function.block, Function.header, h, if_true, String.append_assoc]
  cases f.generic <;> cases f.binder <;> rfl

/-- A lookup is not `associate`. -/
theorem block_lookup_ne {style : Style} {s : Summary} {width : Nat} (p : Parameter) {f g : String} :
    (lookup style s p).block width ++ f ≠ (associate s).block width ++ g := by
  intro h
  obtain ⟨rest, hrest⟩ := block_exported (f := associate s) rfl width
  simp only [block_lookup, hrest, String.append_assoc, String.append_right_inj] at h
  have hlist := congrArg String.toList h
  simp [associate] at hlist

/-- A lookup tells its parameter, whose type stands on one line. -/
theorem block_lookup_injective {style : Style} {s : Summary} {width : Nat} {p q : Parameter}
    {f g : String} (hp : Name.isIdentifier p.name = true) (hq : Name.isIdentifier q.name = true)
    (hpline : '\n' ∉ p.type.toList) (hqline : '\n' ∉ q.type.toList)
    (h : (lookup style s p).block width ++ f = (lookup style s q).block width ++ g) :
    p = q ∧ f = g := by
  simp only [block_lookup, String.append_assoc, String.append_right_inj] at h
  obtain ⟨-, h⟩ := append_inj_of_head? (Name.mark_not_mem_capitalize hp (c := '(') (by decide))
    (Name.mark_not_mem_capitalize hq (by decide)) (by simp) (by simp) h
  rw [String.append_right_inj] at h
  obtain ⟨hspelling, h⟩ := append_inj_of_head? (colon_not_mem_spelling hp)
    (colon_not_mem_spelling hq) (by simp) (by simp) h
  have hname := Name.spelling_injective (Name.mark_not_mem hp (by decide))
    (Name.mark_not_mem hq (by decide)) hspelling
  rw [String.append_right_inj] at h
  -- The type may hold what follows it on its line, but not the end of the line.
  obtain ⟨htype, h⟩ := append_inj_of_lineFeed hpline hqline (by simp [lookupRest]) h
  have hpq : p = q := by
    cases p
    cases q
    congr
  subst hpq
  exact ⟨rfl, String.append_right_inj _ |>.mp h⟩

/-- The lookups can be read back: each tells its parameter, and they end at
`associate`. -/
theorem functionLines_injective {style : Style} {s : Summary} {width : Nat}
    {others : List Function} {atBlockStart : Bool} {ps qs : List Parameter} {r : String}
    (hps : ∀ p ∈ ps, Name.isIdentifier p.name = true ∧ '\n' ∉ p.type.toList)
    (hqs : ∀ q ∈ qs, Name.isIdentifier q.name = true ∧ '\n' ∉ q.type.toList)
    (h : functionLines width atBlockStart (ps.map (lookup style s) ++ associate s :: others) ++ r =
      functionLines width atBlockStart (qs.map (lookup style s) ++ associate s :: others) ++ r) :
    ps = qs := by
  induction ps generalizing qs atBlockStart with
  | nil =>
    cases qs with
    | nil => rfl
    | cons q qs =>
      -- Where one side goes on with a lookup, the other has come to `associate`.
      simp only [List.map_nil, List.nil_append, List.map_cons, List.cons_append, functionLines,
        String.append_assoc, String.append_right_inj] at h
      exact absurd h.symm (block_lookup_ne q)
  | cons p ps ih =>
    cases qs with
    | nil =>
      simp only [List.map_nil, List.nil_append, List.map_cons, List.cons_append, functionLines,
        String.append_assoc, String.append_right_inj] at h
      exact absurd h (block_lookup_ne p)
    | cons q qs =>
      simp only [List.map_cons, List.cons_append, functionLines, String.append_assoc,
        String.append_right_inj] at h
      obtain ⟨hp, hpline⟩ := hps p List.mem_cons_self
      obtain ⟨hq, hqline⟩ := hqs q List.mem_cons_self
      obtain ⟨rfl, hrest⟩ := block_lookup_injective hp hq hpline hqline h
      rw [ih (fun k hk => hps k (List.mem_cons_of_mem _ hk))
        (fun k hk => hqs k (List.mem_cons_of_mem _ hk)) hrest]

/-! ### Companions -/

/-- The functions of a companion begin with one that can be called from
outside. -/
theorem beginsFunction (style : Style) (s : Summary) (width : Nat) (r : String) :
    BeginsFunction width
      (functionLines width s.constants.isEmpty (code style s).functions ++ r) := by
  obtain ⟨f, others, hfunctions, hexported⟩ :
      ∃ f others, (code style s).functions = f :: others ∧ f.exported = true := by
    cases hps : s.parameters with
    | nil => exact ⟨associate s, [enumList s, table s], by simp [code, hps], rfl⟩
    | cons p ps => exact ⟨lookup style s p, _, by rw [code, hps]; rfl, rfl⟩
  obtain ⟨rest, hrest⟩ := block_exported hexported width
  refine ⟨if s.constants.isEmpty then "" else "\n",
    f.name ++ (rest ++ (functionLines width false others ++ r)), ?_, ?_⟩
  · cases s.constants.isEmpty <;> simp
  · simp only [hfunctions, functionLines, hrest, String.append_assoc]

/-- A module path stands on one line. -/
theorem lineFeed_not_mem_scope {s : Summary} (h : s.defect? = none) : '\n' ∉ s.scope.toList := by
  intro hmem
  obtain ⟨g, hg, hlineFeed⟩ := ModulePath.mem_segments (by decide) hmem
  have hsegments := ((Summary.defect?_eq_none_iff s).mp h).2.1
  exact Name.mark_not_mem (hsegments g hg) (by decide) hlineFeed

/-- The name of a companion holds no semicolon. -/
theorem semicolon_not_mem_companionName {s : Summary} (h : s.defect? = none) :
    ';' ∉ s.companionName.toList := by
  have hname := ((Summary.defect?_eq_none_iff s).mp h).2.2.1 _ s.name_mem_names
  have hmark :=
    Name.mark_not_mem (Summary.isIdentifier_of_isDeclarable hname) (c := ';') (by decide)
  simpa [Summary.companionName, Name.companion] using hmark

/-- Two summaries with the same companion are the same. -/
theorem generate_injective {style : Style} {s₁ s₂ : Summary} {text : String}
    (h₁ : generate style s₁ = .ok text) (h₂ : generate style s₂ = .ok text)
    (hline₁ : ∀ p ∈ s₁.parameters, '\n' ∉ p.type.toList)
    (hline₂ : ∀ p ∈ s₂.parameters, '\n' ∉ p.type.toList) : s₁ = s₂ := by
  obtain ⟨hdefect₁, rfl⟩ := generate_ok_iff.mp h₁
  obtain ⟨hdefect₂, htext⟩ := generate_ok_iff.mp h₂
  have hnames₁ := fun n hn => Summary.isIdentifier_of_isDeclarable
    (((Summary.defect?_eq_none_iff s₁).mp hdefect₁).2.2.1 n hn)
  have hnames₂ := fun n hn => Summary.isIdentifier_of_isDeclarable
    (((Summary.defect?_eq_none_iff s₂).mp hdefect₂).2.2.1 n hn)
  rw [Code.text_eq, Code.text_eq] at htext
  simp only [Code.preamble, String.append_assoc, String.append_right_inj] at htext
  -- The module path ends with its line, the name of the companion at the semicolon.
  obtain ⟨hscope, htext⟩ := append_inj_of_head? (lineFeed_not_mem_scope hdefect₁)
    (lineFeed_not_mem_scope hdefect₂) (by simp) (by simp) htext
  simp only [String.append_right_inj] at htext
  obtain ⟨hcompanion, htext⟩ := append_inj_of_head? (semicolon_not_mem_companionName hdefect₁)
    (semicolon_not_mem_companionName hdefect₂) (by simp) (by simp) htext
  have hname : s₁.name = s₂.name := String.append_left_inj "_" |>.mp hcompanion
  simp only [code, hcompanion, String.append_right_inj] at htext
  obtain ⟨hconstants, htext⟩ := constantLines_injective
    (fun n hn => hnames₁ n (Summary.mem_names_of_mem_constants hn))
    (fun n hn => hnames₂ n (Summary.mem_names_of_mem_constants hn))
    (beginsFunction style s₁ _ _) (beginsFunction style s₂ _ _) htext
  -- From here on the two texts are about the same enum.
  obtain ⟨scope, name, constants, parameters₁⟩ := s₁
  obtain ⟨scope₂, name₂, constants₂, parameters₂⟩ := s₂
  obtain rfl : scope = scope₂ := hscope
  obtain rfl : name = name₂ := hname
  obtain rfl : constants = constants₂ := hconstants
  obtain rfl : parameters₁ = parameters₂ := functionLines_injective
    (fun p hp => ⟨hnames₁ _ (Summary.mem_names_of_mem_parameters hp), hline₁ p hp⟩)
    (fun p hp => ⟨hnames₂ _ (Summary.mem_names_of_mem_parameters hp), hline₂ p hp⟩) htext
  rfl

/-- A summary without constants, with a parameter twice and with types that
look like the rest of their line. -/
def tangled : Summary where
  scope := "crate::a"
  name := "T_"
  constants := []
  parameters := [⟨"type", "fn() -> ::core::result::Result<T_, ::rt::NoConstantFound> \x7b"⟩,
    ⟨"type", "u8"⟩, ⟨"type", "u8"⟩]

/-- What is put together step by step is the summary, if it has its
companion. -/
theorem tangled_readback :
    generate ⟨"::rt", 0⟩ tangled = .ok ((code ⟨"::rt", 0⟩ tangled).text 0) ∧
      ((((Summary.empty "crate::a" "T_").addParameter
        ⟨"type", "fn() -> ::core::result::Result<T_, ::rt::NoConstantFound> \x7b"⟩).addParameter
        ⟨"type", "u8"⟩).addParameter ⟨"type", "u8"⟩) = tangled := by
  have hdefect : tangled.defect? = none := by rfl
  have htext : generate ⟨"::rt", 0⟩ tangled = .ok ((code ⟨"::rt", 0⟩ tangled).text 0) :=
    generate_ok_iff.mpr ⟨hdefect, rfl⟩
  exact ⟨htext, generate_injective htext htext (by decide) (by decide)⟩

end EnumCompanion.Companion
