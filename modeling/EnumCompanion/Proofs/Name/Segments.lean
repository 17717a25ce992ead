import EnumCompanion.ModulePath

/-!
# `EnumCompanion.Proofs.Name.Segments`: what the segments of a path hold

`segments` cuts a path at every `::` and loses nothing else:
`mem_segments` finds each character that is no colon in a segment, and
`ofSegments_segments` puts the path together again. A path that goes on
with a name has one segment more (`segments_append_name`). `IsCut` says
where a path is cut, and `isCut_iff` that it is cut there.
-/

set_option autoImplicit false

namespace EnumCompanion.ModulePath

/-- A character put in front of the first segment is in it. -/
theorem mem_consFirst_self (c : Char) (parts : List (List Char)) :
    ∃ g ∈ consFirst c parts, c ∈ g := by
  cases parts with
  | nil => exact ⟨[c], List.mem_cons_self, List.mem_cons_self⟩
  | cons s rest => exact ⟨c :: s, List.mem_cons_self, List.mem_cons_self⟩

/-- A character of a segment stays in one when another is put in front. -/
theorem mem_consFirst {c d : Char} {parts : List (List Char)} (h : ∃ g ∈ parts, d ∈ g) :
    ∃ g ∈ consFirst c parts, d ∈ g := by
  obtain ⟨g, hg, hd⟩ := h
  cases parts with
  | nil => cases hg
  | cons s rest =>
    rcases List.mem_cons.mp hg with rfl | hrest
    · exact ⟨c :: g, List.mem_cons_self, List.mem_cons_of_mem _ hd⟩
    · exact ⟨g, List.mem_cons_of_mem _ hrest, hd⟩

/-- A character that is no colon is in a segment. -/
theorem mem_cut {c : Char} (hc : c ≠ ':') {cs : List Char} (h : c ∈ cs) :
    ∃ g ∈ cut cs, c ∈ g := by
  fun_induction cut cs with
  | case1 => cases h
  | case2 rest ih =>
    have hrest : c ∈ rest := by simpa [hc] using h
    obtain ⟨g, hg, hmem⟩ := ih hrest
    exact ⟨g, List.mem_cons_of_mem _ hg, hmem⟩
  | case3 d rest _ ih =>
    rcases List.mem_cons.mp h with rfl | hrest
    · exact mem_consFirst_self c _
    · exact mem_consFirst (ih hrest)

/-- A character of a path that is no colon is in a segment. -/
theorem mem_segments {c : Char} (hc : c ≠ ':') {path : String} (h : c ∈ path.toList) :
    ∃ g ∈ segments path, c ∈ g.toList := by
  obtain ⟨g, hg, hmem⟩ := mem_cut hc h
  exact ⟨String.ofList g, List.mem_map_of_mem hg, by simpa using hmem⟩

/-! ### Putting together -/

/-- There is always a segment. -/
theorem cut_ne_nil (cs : List Char) : cut cs ≠ [] := by
  fun_induction cut cs with
  | case1 => exact List.cons_ne_nil _ _
  | case2 => exact List.cons_ne_nil _ _
  | case3 d rest _ ih =>
    cases hcut : cut rest with
    | nil => exact absurd hcut ih
    | cons g more => exact List.cons_ne_nil _ _

/-- What is put in front of the first segment comes in front of the whole. -/
theorem intercalate_consFirst (sep : List Char) (c : Char) {parts : List (List Char)}
    (hne : parts ≠ []) : sep.intercalate (consFirst c parts) = c :: sep.intercalate parts := by
  cases parts with
  | nil => exact absurd rfl hne
  | cons g more =>
    cases more with
    | nil => simp [consFirst]
    | cons next more => simp [consFirst, List.intercalate_cons_cons]

theorem intercalate_cut (cs : List Char) : [':', ':'].intercalate (cut cs) = cs := by
  fun_induction cut cs with
  | case1 => rfl
  | case2 rest ih =>
    cases hcut : cut rest with
    | nil => exact absurd hcut (cut_ne_nil rest)
    | cons g more =>
      rw [hcut] at ih
      rw [List.intercalate_cons_cons, ih]
      rfl
  | case3 d rest _ ih => rw [intercalate_consFirst _ _ (cut_ne_nil rest), ih]

/-- The segments of a path make up the path. -/
theorem ofSegments_segments (path : String) : ofSegments (segments path) = path := by
  rw [← String.toList_inj, ofSegments, segments, String.toList_intercalate, List.map_map]
  simp [intercalate_cut]

/-- A path is known by its segments. -/
theorem segments_injective : Function.Injective segments := by
  intro p q h
  rw [← ofSegments_segments p, h, ofSegments_segments]

/-! ### Paths that go on -/

/-- What has no colon is one segment. -/
theorem cut_of_not_mem {cs : List Char} (h : ':' ∉ cs) : cut cs = [cs] := by
  fun_induction cut cs with
  | case1 => rfl
  | case2 rest => exact absurd List.mem_cons_self h
  | case3 d rest _ ih =>
    rw [ih fun hmem => h (List.mem_cons_of_mem _ hmem)]
    rfl

/-- Segments without colons are not changed by what follows a cut. -/
theorem cut_append {cs ds : List Char} (h : ∀ g ∈ cut cs, ':' ∉ g) :
    cut (cs ++ ':' :: ':' :: ds) = cut cs ++ cut ds := by
  fun_induction cut cs with
  | case1 => rfl
  | case2 rest ih =>
    rw [List.cons_append, List.cons_append, cut, ih fun g hg => h g (List.mem_cons_of_mem _ hg)]
    rfl
  | case3 d rest hsingle ih =>
    -- The character is in the first segment, so that it is no colon.
    cases hcut : cut rest with
    | nil => exact absurd hcut (cut_ne_nil rest)
    | cons g more =>
      rw [hcut] at h ih
      obtain ⟨hfirst, hmore⟩ := List.forall_mem_cons.mp h
      rw [List.mem_cons, not_or] at hfirst
      rw [List.cons_append, cut, ih (List.forall_mem_cons.mpr ⟨hfirst.2, hmore⟩)]
      · rfl
      · rintro rest' rfl
        exact absurd rfl hfirst.1

/-- A path that goes on with a name has the name as its last segment. -/
theorem segments_append_name {path name : String} (h : ∀ g ∈ segments path, ':' ∉ g.toList)
    (hname : ':' ∉ name.toList) : segments (path ++ "::" ++ name) = segments path ++ [name] := by
  have hcut : ∀ g ∈ cut path.toList, ':' ∉ g := by
    intro g hg
    simpa using h (String.ofList g) (List.mem_map_of_mem hg)
  have hcolons : "::".toList = [':', ':'] := rfl
  rw [segments, String.toList_append, String.toList_append, List.append_assoc, hcolons,
    List.cons_append, List.cons_append, List.nil_append, cut_append hcut, cut_of_not_mem hname,
    List.map_append, List.map_cons, List.map_nil, String.ofList_toList, segments]

/-! ### Where a path is cut -/

/-- The mark between two segments. -/
def colons : List Char := [':', ':']

/-- The pieces of a text that is cut at the first `::`, then at the first one
behind it, and so on. In a longer run of colons the first two are the mark, so
that a colon in front of it never is a part of another one. -/
inductive IsCut : List Char → List (List Char) → Prop where
  /-- The text without a mark is one piece. -/
  | last {g : List Char} (h : ¬colons <:+: g) : IsCut g [g]
  /-- What stands before the first mark is a piece, and what stands behind it is
  cut further. -/
  | first {g rest : List Char} {parts : List (List Char)} (h : ¬colons <:+: g ++ [':'])
      (more : IsCut rest parts) : IsCut (g ++ (colons ++ rest)) (g :: parts)

/-- A character that does not begin a mark belongs to the first piece. -/
theorem cut_cons_of_no_colons {c : Char} {cs : List Char} (h : ¬colons <+: c :: cs) :
    cut (c :: cs) = consFirst c (cut cs) := by
  rw [cut]
  rintro rest rfl rfl
  exact h ⟨rest, rfl⟩

/-- A text without a mark is not cut. -/
theorem cut_of_no_colons {g : List Char} (h : ¬colons <:+: g) : cut g = [g] := by
  induction g with
  | nil => rfl
  | cons c g ih =>
    rw [List.infix_cons_iff, not_or] at h
    rw [cut_cons_of_no_colons h.1, ih h.2]
    rfl

/-- The second colon of a mark is the next character, or the first one behind. -/
theorem begins_with_colons_iff (c : Char) (g rest : List Char) :
    colons <+: c :: (g ++ ':' :: rest) ↔ colons <+: c :: (g ++ [':']) := by
  cases g <;> simp [colons]

/-- A text is cut at its first mark. -/
theorem cut_first {g : List Char} (h : ¬colons <:+: g ++ [':']) (rest : List Char) :
    cut (g ++ (colons ++ rest)) = g :: cut rest := by
  induction g with
  | nil => rfl
  | cons c g ih =>
    rw [List.cons_append, List.infix_cons_iff, not_or] at h
    have hbegin : ¬colons <+: c :: (g ++ (colons ++ rest)) :=
      fun hmark => h.1 ((begins_with_colons_iff c g (':' :: rest)).mp hmark)
    rw [List.cons_append, cut_cons_of_no_colons hbegin, ih h.2]
    rfl

/-- The pieces between the marks are these and no others. -/
theorem isCut_iff {cs : List Char} {parts : List (List Char)} :
    IsCut cs parts ↔ cut cs = parts := by
  constructor
  · intro h
    induction h with
    | last h => exact cut_of_no_colons h
    | first h more ih => rw [cut_first h, ih]
  · rintro rfl
    fun_induction cut cs with
    | case1 => exact .last (by simp [colons])
    | case2 rest ih => exact .first (g := []) (by decide) ih
    | case3 c rest hsingle ih =>
      have hbegin : ¬colons <+: c :: rest := by
        rintro ⟨rest', hrest⟩
        obtain ⟨rfl, rfl⟩ := List.cons.inj hrest
        exact hsingle rest' rfl rfl
      generalize cut rest = parts at ih
      cases ih with
      | last h => exact .last fun hmark => (List.infix_cons_iff.mp hmark).elim hbegin h
      | @first g rest parts h more =>
        have hfirst : ¬colons <+: c :: (g ++ [':']) :=
          fun hmark => hbegin ((begins_with_colons_iff c g (':' :: rest)).mpr hmark)
        exact .first (g := c :: g) (fun hmark => (List.infix_cons_iff.mp hmark).elim hfirst h) more

end EnumCompanion.ModulePath
