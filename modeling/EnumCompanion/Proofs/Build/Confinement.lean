import EnumCompanion.Proofs.Build.Invariant
import EnumCompanion.Proofs.Declaration.Summary
import EnumCompanion.Proofs.FileTree.Growth
import EnumCompanion.Proofs.Summary.QualifiedName
import Mathlib.Data.List.Nodup

/-!
# `EnumCompanion.Proofs.Build.Confinement`: where a run writes

A run that writes files writes them into one directory, each under the
qualified name of its companion. The names are those of files right below
the directory, whatever the sources and the path of the outermost module
say, since nothing with a defect comes to be written.

* `Deposited`: what texts that were put away one after the other have made
  of a tree. `Deposited.write` adds one, `Deposited.writeIn` what a request
  comes to.
* `Orderly`: the invariant of a run, in terms of the requests to the host.
  `orderly_preserved` says that it is one.
* `delivered`: the companions that a report says are put away;
  `kept_of_settles` finds them among the requests.
* `run_confined`: the files that a run changes, and what they hold in the
  end.
-/

set_option autoImplicit false

namespace EnumCompanion

open FileTree

/-! ### Names of files -/

/-- The name of the file that a text with the given name is put in. -/
def fileName (name : String) : String :=
  name ++ ".rs"

theorem fileName_injective : Function.Injective fileName :=
  fun _ _ h => String.append_left_inj ".rs" |>.mp h

/-- The qualified name of a summary without a defect makes the name of a
file. -/
theorem Summary.isEntryName_qualifiedName {s : Summary} (h : s.defect? = none) :
    IsEntryName (fileName s.qualifiedName) where
  slash := by
    have hnot := not_mem_qualifiedName h Name.isWordChar_slash (by decide)
    simpa [fileName] using hnot
  empty hname := by
    have hlist := congrArg String.toList hname
    simp [fileName] at hlist
  point hname := by
    have hlist := congrArg (List.getLast? ∘ String.toList) hname
    simp [fileName] at hlist
  points hname := by
    have hlist := congrArg (List.getLast? ∘ String.toList) hname
    simp [fileName] at hlist

namespace Build

/-! ### Texts that were put away -/

/-- What has become of a tree when texts were put away in a directory, each
with its name, the last one last. -/
structure Deposited (directory : FilePath) (before after : FileTree)
    (kept : List (String × String)) : Prop where
  grows : before.Grows after
  /-- Only files right below the directory were changed, and each has the name
  of a text. -/
  changed : ∀ l, after.content? l ≠ before.content? l →
    ∃ f, after.folder? directory = some f ∧ after.node? f = some .directory ∧
      ∃ e ∈ kept, l = f ++ [fileName e.1]
  /-- Where a name leads to, there is the last text with that name. -/
  holds : ∀ name text, kept.reverse.lookup name = some text →
    ∃ f, after.folder? directory = some f ∧
      after.locate (Host.pathIn directory name) = .ok (f ++ [fileName name]) ∧
      after.content? (f ++ [fileName name]) = some (.text text)

theorem Deposited.nothing (directory : FilePath) (t : FileTree) : Deposited directory t t [] where
  grows := .refl t
  changed _ h := absurd rfl h
  holds _ _ h := by cases h

/-- Making directories does not matter. -/
theorem Deposited.extend {directory : FilePath} {before t t' : FileTree}
    {kept : List (String × String)} (h : Deposited directory before t kept)
    (hextends : t.Extends t') : Deposited directory before t' kept where
  grows := h.grows.trans hextends.toGrows
  changed l hl := by
    rw [hextends.content] at hl
    obtain ⟨f, hf, hdirectory, hkept⟩ := h.changed l hl
    exact ⟨f, hextends.toGrows.folder? hf, hextends.directory f hdirectory, hkept⟩
  holds name text hlookup := by
    obtain ⟨f, hf, hlocate, hcontent⟩ := h.holds name text hlookup
    refine ⟨f, hextends.toGrows.folder? hf, hextends.toGrows.locate hlocate, ?_⟩
    rw [hextends.content, hcontent]

/-- A text that is written where its name leads to is one more that was put
away. -/
theorem Deposited.write {directory : FilePath} {before t : FileTree}
    {kept : List (String × String)} (h : Deposited directory before t kept) {name : String}
    (hname : IsEntryName (fileName name)) {l : Location}
    (hlocate : t.locate (Host.pathIn directory name) = .ok l)
    (hl : t.node? l ≠ some .directory) (text : String) :
    Deposited directory before (t.put l (.file (.text text))) (kept ++ [(name, text)]) := by
  have hgrows : t.Grows (t.put l (.file (.text text))) := put_file_grows _ hl
  obtain ⟨f, hf, hdirectory, rfl⟩ := locate_join hname hlocate
  refine ⟨h.grows.trans hgrows, ?_, ?_⟩
  · intro k hk
    rw [content?_put_file] at hk
    by_cases hkl : k = f ++ [fileName name]
    · exact ⟨f, hgrows.folder? hf, hgrows.directory f hdirectory, (name, text), by simp, hkl⟩
    · rw [if_neg hkl] at hk
      obtain ⟨f', hf', hdirectory', e, he, rfl⟩ := h.changed k hk
      exact ⟨f', hgrows.folder? hf', hgrows.directory f' hdirectory', e,
        List.mem_append_left _ he, rfl⟩
  · intro other text' hlookup
    rw [List.reverse_append, List.reverse_singleton, List.singleton_append,
      List.lookup_cons] at hlookup
    by_cases hother : other = name
    · -- The last text with the name is the new one.
      subst hother
      rw [beq_self_eq_true] at hlookup
      cases hlookup
      exact ⟨f, hgrows.folder? hf, hgrows.locate hlocate, by rw [content?_put_file, if_pos rfl]⟩
    · -- Another name has another place.
      rw [beq_eq_false_iff_ne.mpr hother] at hlookup
      obtain ⟨f', hf', hlocate', hcontent⟩ := h.holds other text' hlookup
      obtain rfl : f = f' := Option.some.inj (hf.symm.trans hf')
      refine ⟨f, hgrows.folder? hf, hgrows.locate hlocate', ?_⟩
      rw [content?_put_file, if_neg, hcontent]
      intro hsame
      exact hother (fileName_injective (List.singleton_inj.mp (List.append_cancel_left hsame)))

/-! ### The requests of a run -/

/-- A host that writes to a directory makes directories, and may write one
file after that. -/
theorem writeIn_cases (directory : FilePath) (name text : String) (w : World Unit) :
    ∃ tree, w.tree.Extends tree ∧
      (Host.writeIn directory name text w = (none, { w with tree := tree }) ∨
        ∃ l, tree.locate (Host.pathIn directory name) = .ok l ∧
          tree.node? l ≠ some .directory ∧
          (Host.writeIn directory name text w).1 = some (Host.pathIn directory name) ∧
          (Host.writeIn directory name text w).2.tree = tree.put l (.file (.text text))) := by
  have hextends := createAll_extends w.tree directory
  unfold Host.writeIn
  cases hmade : w.tree.createAll directory with
  | mk tree made =>
    rw [hmade] at hextends
    refine ⟨tree, hextends, ?_⟩
    cases made with
    | false => exact .inl rfl
    | true =>
      -- The directories stay if the file cannot be written.
      cases hwrite : tree.write (Host.pathIn directory name) (.text text) with
      | error o => exact .inl (by simp only [hwrite])
      | ok after =>
        obtain ⟨l, hlocate, hl, rfl⟩ := write_spec hwrite
        exact .inr ⟨l, hlocate, hl, by simp only [hwrite], by simp only [hwrite]; rfl⟩

/-- The name and the text of a request that was fulfilled. -/
def Call.kept? : Call → Option (String × String)
  | .emit name text (some _) => some (name, text)
  | _ => none

/-- The texts that were put away, each with its name. -/
def kept (calls : List Call) : List (String × String) :=
  calls.filterMap Call.kept?

theorem kept_concat (calls : List Call) (call : Call) :
    kept (calls ++ [call]) = kept calls ++ call.kept?.toList := by
  rw [kept, kept, List.filterMap_append]
  cases h : call.kept? <;> simp [h]

/-- After one more request of a host that writes to a directory. A request
that is not fulfilled puts nothing away, and leaves directories at most. -/
theorem Deposited.writeIn {directory : FilePath} {before : FileTree} {w : World Unit}
    {texts : List (String × String)} (h : Deposited directory before w.tree texts)
    (name text : String)
    (hname : ∀ e ∈ (Call.emit name text (Host.writeIn directory name text w).1).kept?.toList,
      IsEntryName (fileName e.1)) :
    Deposited directory before (Host.writeIn directory name text w).2.tree
      (texts ++ (Call.emit name text (Host.writeIn directory name text w).1).kept?.toList) := by
  obtain ⟨tree, hextends, hnone | ⟨l, hlocate, hl, hsome, htree⟩⟩ :=
    writeIn_cases directory name text w
  · rw [hnone]
    simpa [Call.kept?] using h.extend hextends
  · rw [hsome] at hname ⊢
    rw [htree]
    exact (h.extend hextends).write (hname (name, text) (List.mem_singleton_self _)) hlocate hl text

/-- What a host that writes to a directory has done so far, in terms of what
it was asked to do. -/
structure Orderly (directory : FilePath) (before : FileTree) (w : World (Unit × List Call)) :
    Prop where
  /-- A text is where its name leads to. -/
  answers : ∀ name text path, Call.emit name text (some path) ∈ w.state.2 →
    path = Host.pathIn directory name
  /-- While all names are those of files, all texts are in the directory. -/
  deposited : (∀ e ∈ kept w.state.2, IsEntryName (fileName e.1)) →
    Deposited directory before w.tree (kept w.state.2)

/-- Every request keeps the host orderly. -/
theorem orderly_preserved (directory : FilePath) (before : FileTree) :
    (transcribed (Host.directory directory)).Preserves (Orderly directory before) where
  print _ h := ⟨h.answers, h.deposited⟩
  note _ _ h := ⟨h.answers, h.deposited⟩
  report {w} message h := by
    have hkept : kept (w.state.2 ++ [.report message]) = kept w.state.2 := by
      simp [kept_concat, Call.kept?]
    constructor
    · intro name text path hmem
      refine h.answers name text path ?_
      simpa [transcribed, withCalls, withState] using hmem
    · show (∀ e ∈ kept (w.state.2 ++ [.report message]), _) →
        Deposited directory before w.tree (kept (w.state.2 ++ [.report message]))
      rw [hkept]
      exact h.deposited
  emit {w} name text h := by
    constructor
    · intro name' text' path hmem
      rcases List.mem_append.mp hmem with hmem | hmem
      · exact h.answers name' text' path hmem
      · -- The new request is the one that the host has just answered.
        obtain ⟨rfl, rfl, hanswer⟩ := Call.emit.inj (List.mem_singleton.mp hmem)
        obtain ⟨tree, -, hnone | ⟨l, -, -, hsome, -⟩⟩ :=
          writeIn_cases directory name' text' (withState w w.state.1)
        · cases hanswer.trans (congrArg Prod.fst hnone)
        · exact Option.some.inj (hanswer.trans hsome)
    · show (∀ e ∈ kept (w.state.2 ++ [.emit name text
            (Host.writeIn directory name text (withState w w.state.1)).1]), _) →
        Deposited directory before (Host.writeIn directory name text (withState w w.state.1)).2.tree
          (kept (w.state.2 ++ [.emit name text
            (Host.writeIn directory name text (withState w w.state.1)).1]))
      rw [kept_concat]
      intro hnames
      obtain ⟨hbefore, hname⟩ := List.forall_mem_append.mp hnames
      exact (h.deposited hbefore).writeIn name text hname

/-! ### What a report says -/

/-- The companion that the report says is put away, for a subject and its
entry. -/
def delivery? (b : Build) : Subject → Report.Entry → Option Companion
  | .declaration d, .generated _ => (d.companion? b.style).toOption.join
  | _, _ => none

/-- The companions that a report on the given subjects says are put away, in
order. -/
def delivered (b : Build) (xs : List Subject) (report : Report) : List Companion :=
  (xs.zip report.entries).filterMap fun e => b.delivery? e.1 e.2

theorem delivered_cons (b : Build) (x : Subject) (xs : List Subject) (y : Report.Entry)
    (ys : List Report.Entry) :
    b.delivered (x :: xs) ⟨y :: ys⟩ = (b.delivery? x y).toList ++ b.delivered xs ⟨ys⟩ := by
  cases h : b.delivery? x y <;> simp [delivered, h]

/-- The name and the text of a companion. -/
def deposit (c : Companion) : String × String :=
  (c.qualifiedName, c.text)

theorem delivery?_generated {b : Build} {d : Declaration} {s : Summary} {text : String}
    (hsummary : d.summary? = .ok (some s)) (htext : Companion.generate b.style s = .ok text)
    (path : FilePath) : b.delivery? (.declaration d) (.generated path) = some ⟨s, text⟩ := by
  have hcompanion := Declaration.companion?_of_some hsummary b.style
  rw [htext] at hcompanion
  rw [delivery?, hcompanion]
  rfl

/-- What settles a subject asks the host for the companion of its entry. -/
theorem Settles.kept_calls {b : Build} {x : Subject} {y : Settlement} (h : Settles b x y) :
    kept y.calls = (b.delivery? x y.entry).toList.map deposit := by
  cases h with
  | generated henum hsummary htext =>
    rw [delivery?_generated hsummary htext]
    rfl
  | _ => rfl

/-- If every text is where its name leads to, the entry says so. -/
theorem Settles.generated_entry {b : Build} {directory : FilePath} {x : Subject} {y : Settlement}
    (h : Settles b x y)
    (hanswers : ∀ name text path, Call.emit name text (some path) ∈ y.calls →
      path = Host.pathIn directory name) :
    Report.generated ⟨[y.entry]⟩
      = (b.delivery? x y.entry).toList.map fun c => Host.pathIn directory c.qualifiedName := by
  cases h with
  | @generated d s text path henum hsummary htext =>
    have hpath := hanswers s.qualifiedName text path List.mem_cons_self
    rw [delivery?_generated hsummary htext]
    exact List.singleton_inj.mpr hpath
  | _ => rfl

/-- The texts that were put away are those of the companions that the report
says are. -/
theorem kept_of_settles {b : Build} {xs : List Subject} {settled : List Settlement}
    (h : List.Forall₂ (Settles b) xs settled) :
    kept (settled.flatMap Settlement.calls)
      = (b.delivered xs ⟨settled.map Settlement.entry⟩).map deposit := by
  induction h with
  | nil => rfl
  | @cons x y xs settled hxy _ ih =>
    rw [List.flatMap_cons, List.map_cons, delivered_cons, List.map_append, ← ih, ← hxy.kept_calls]
    exact List.filterMap_append

/-- If every text is where its name leads to, the report says so. -/
theorem generated_of_settles {b : Build} {directory : FilePath} {xs : List Subject}
    {settled : List Settlement} (h : List.Forall₂ (Settles b) xs settled)
    (hanswers : ∀ name text path,
      Call.emit name text (some path) ∈ settled.flatMap Settlement.calls →
        path = Host.pathIn directory name) :
    Report.generated ⟨settled.map Settlement.entry⟩
      = (b.delivered xs ⟨settled.map Settlement.entry⟩).map
          fun c => Host.pathIn directory c.qualifiedName := by
  induction h with
  | nil => rfl
  | @cons x y xs settled hxy _ ih =>
    rw [List.flatMap_cons] at hanswers
    have hentry := hxy.generated_entry fun name text path h =>
      hanswers name text path (List.mem_append_left _ h)
    have hrest := ih fun name text path h => hanswers name text path (List.mem_append_right _ h)
    rw [List.map_cons, delivered_cons, List.map_append, ← hentry, ← hrest]
    exact List.filterMap_append (l := [y.entry])

/-- The companions that are put away are those of declarations. -/
theorem exists_of_mem_delivered {b : Build} {xs : List Subject} {report : Report} {c : Companion}
    (h : c ∈ b.delivered xs report) :
    ∃ d, .declaration d ∈ xs ∧ d.companion? b.style = .ok (some c) := by
  obtain ⟨⟨x, entry⟩, hmem, hdelivery⟩ := List.mem_filterMap.mp h
  have hx : x ∈ xs := (List.of_mem_zip hmem).1
  -- Only a declaration with an entry that names a path counts as put away.
  cases x with
  | unread path f => cases hdelivery
  | declaration d =>
    cases entry with
    | skipped place => cases hdelivery
    | failed f => cases hdelivery
    | generated path =>
      refine ⟨d, hx, ?_⟩
      change (d.companion? b.style).toOption.join = some c at hdelivery
      cases hc : d.companion? b.style with
      | error e =>
        rw [hc] at hdelivery
        cases hdelivery
      | ok c? =>
        rw [hc] at hdelivery
        exact congrArg Except.ok hdelivery

/-- They have no defect. -/
theorem defect?_of_mem_delivered {b : Build} {xs : List Subject} {report : Report} {c : Companion}
    (h : c ∈ b.delivered xs report) : c.summary.defect? = none := by
  obtain ⟨d, -, hd⟩ := exists_of_mem_delivered h
  exact (Companion.generate_ok_iff.mp (Declaration.companion?_eq_some_iff.mp hd).2).1

/-! ### Whole runs -/

/-- Where the companions of a run are, when they were put away in a directory:
the tree before the run, the tree after it, what was visited and what the
report says. -/
structure Confined (b : Build) (directory : FilePath) (before after : FileTree)
    (visits : List Reading) (report : Report) : Prop where
  /-- What is put away is the companion of an enum of a file that was visited. -/
  origin : ∀ c ∈ b.delivered (visits.flatMap (Reading.subjects b)) report,
    ∃ d name, .declaration d ∈ visits.flatMap (Reading.subjects b) ∧
      d.companion? b.style = .ok (some c) ∧ d.Summarizes name c.summary ∧
      c.summary.scope = d.scope ∧ c.summary.name = name.name
  /-- The report names the files of the companions, in order. -/
  generated : report.generated
    = (b.delivered (visits.flatMap (Reading.subjects b)) report).map
        fun c => directory.join ⟨fileName c.qualifiedName⟩
  /-- Files outside the directory, or with other names, are what they were:
  none is changed, none is new and none is gone. -/
  changed : ∀ l, after.content? l ≠ before.content? l →
    ∃ f, after.folder? directory = some f ∧ after.node? f = some .directory ∧
      ∃ c ∈ b.delivered (visits.flatMap (Reading.subjects b)) report,
        l = f ++ [".".intercalate
          (ModulePath.segments c.summary.scope ++ [c.summary.name ++ "_"]) ++ ".rs"]
  /-- If no two of the enums have both module and name in common, no two
  companions have one file, and each file holds its own text. -/
  separate :
    ((b.delivered (visits.flatMap (Reading.subjects b)) report).map
        fun c => (c.summary.scope, c.summary.name)).Nodup →
      report.generated.Nodup ∧
        ∀ c ∈ b.delivered (visits.flatMap (Reading.subjects b)) report,
          after.read? (directory.join ⟨fileName c.qualifiedName⟩) = some c.text

/-- Names of files give one path only if they are the same. -/
theorem join_injective {directory : FilePath} {name other : String} (hname : IsEntryName name)
    (hother : IsEntryName other) (h : directory.join ⟨name⟩ = directory.join ⟨other⟩) :
    name = other := by
  have habsolute := isAbsolute_of_isEntryName hname
  have habsolute' := isAbsolute_of_isEntryName hother
  simp only [FilePath.join, habsolute, habsolute', Bool.false_eq_true, if_false] at h
  split at h
  · exact String.append_right_inj _ |>.mp (FilePath.mk.inj h)
  · exact String.append_right_inj _ |>.mp (FilePath.mk.inj h)

/-- With keys that are all different, an entry is found under its key. -/
theorem lookup_eq_some_of_mem {entries : List (String × String)} {k v : String}
    (hkeys : (entries.map Prod.fst).Nodup) (h : (k, v) ∈ entries) :
    entries.lookup k = some v := by
  induction entries with
  | nil => cases h
  | cons e rest ih =>
    rw [List.map_cons, List.nodup_cons] at hkeys
    rw [List.lookup_cons]
    rcases List.mem_cons.mp h with rfl | hrest
    · rw [beq_self_eq_true]
    · have hk : k ≠ e.1 := by
        rintro rfl
        exact hkeys.1 (List.mem_map.mpr ⟨_, hrest, rfl⟩)
      rw [beq_eq_false_iff_ne.mpr hk]
      exact ih hkeys.2 hrest

/-- Companions that have different modules or names go to different places. -/
theorem nodup_qualifiedName {cs : List Companion} (hfit : ∀ c ∈ cs, c.summary.defect? = none)
    (h : (cs.map fun c => (c.summary.scope, c.summary.name)).Nodup) :
    (cs.map Companion.qualifiedName).Nodup := by
  rw [List.Nodup, List.pairwise_map] at h ⊢
  refine h.imp_of_mem fun {c c'} hc hc' hne hsame => hne ?_
  obtain ⟨hscope, hname⟩ :=
    (Summary.qualifiedName_inj (hfit c hc) (hfit c' hc')).mp hsame
  exact Prod.ext hscope hname

/-- Different names are those of different files in a directory. -/
theorem nodup_pathIn (directory : FilePath) {cs : List Companion}
    (hfit : ∀ c ∈ cs, c.summary.defect? = none) (h : (cs.map Companion.qualifiedName).Nodup) :
    (cs.map fun c => Host.pathIn directory c.qualifiedName).Nodup := by
  rw [List.Nodup, List.pairwise_map] at h ⊢
  refine h.imp_of_mem fun {c c'} hc hc' hne hsame => hne ?_
  exact fileName_injective (join_injective (Summary.isEntryName_qualifiedName (hfit c hc))
    (Summary.isEntryName_qualifiedName (hfit c' hc')) hsame)

/-- A text whose name no other has is what is read under its name. -/
theorem Deposited.read? {directory : FilePath} {before after : FileTree} {cs : List Companion}
    (h : Deposited directory before after (cs.map deposit))
    (hnames : (cs.map Companion.qualifiedName).Nodup) {c : Companion} (hc : c ∈ cs) :
    after.read? (Host.pathIn directory c.qualifiedName) = some c.text := by
  have hkeys : ((cs.map deposit).reverse.map Prod.fst).Nodup := by
    rw [List.map_reverse, List.nodup_reverse, List.map_map]
    exact hnames
  have hmem : (c.qualifiedName, c.text) ∈ (cs.map deposit).reverse :=
    List.mem_reverse.mpr (List.mem_map.mpr ⟨c, hc, rfl⟩)
  obtain ⟨f, -, hlocate, hcontent⟩ := h.holds _ _ (lookup_eq_some_of_mem hkeys hmem)
  exact read?_eq_some hlocate hcontent

/-- The end of a run is confined: the invariant, with the requests accounted
for. -/
theorem confined_of_orderly {b : Build} {directory : FilePath} {before after : FileTree}
    {visits : List Reading} {report : Report} {calls : List Call}
    (haccounts : Accounts b visits report calls) {w : World (Unit × List Call)}
    (hw : Orderly directory before w) (hcalls : w.state.2 = calls) (htree : w.tree = after) :
    Confined b directory before after visits report := by
  obtain ⟨settled, hsettled, hentries, hrequests⟩ := haccounts.settled
  obtain ⟨entries⟩ := report
  obtain rfl : entries = settled.map Settlement.entry := hentries
  subst hcalls htree
  -- The companions put away have no defect, so their names are those of files.
  have hfit : ∀ c ∈ b.delivered (visits.flatMap (Reading.subjects b))
      ⟨settled.map Settlement.entry⟩, c.summary.defect? = none :=
    fun c hc => defect?_of_mem_delivered hc
  have hkept := kept_of_settles hsettled
  rw [← hrequests] at hkept
  have hdeposited := hw.deposited (by
    intro e he
    rw [hkept] at he
    obtain ⟨c, hc, rfl⟩ := List.mem_map.mp he
    exact Summary.isEntryName_qualifiedName (hfit c hc))
  rw [hkept] at hdeposited
  have hanswers : ∀ name text path,
      Call.emit name text (some path) ∈ settled.flatMap Settlement.calls →
        path = Host.pathIn directory name := by
    rw [← hrequests]
    exact hw.answers
  have hgenerated := generated_of_settles hsettled hanswers
  refine ⟨?_, hgenerated, ?_, ?_⟩
  · intro c hc
    obtain ⟨d, hd, hcompanion⟩ := exists_of_mem_delivered hc
    obtain ⟨name, hname⟩ := (Declaration.companion?_eq_some_iff.mp hcompanion).1
    exact ⟨d, name, hd, hcompanion, hname, hname.scope_name⟩
  · intro l hl
    obtain ⟨f, hf, hdirectory, e, he, rfl⟩ := hdeposited.changed l hl
    obtain ⟨c, hc, rfl⟩ := List.mem_map.mp he
    exact ⟨f, hf, hdirectory, c, hc, rfl⟩
  · intro hkeys
    have hnames := nodup_qualifiedName hfit hkeys
    constructor
    · rw [hgenerated]
      exact nodup_pathIn directory hfit hnames
    · intro c hc
      exact hdeposited.read? hnames hc

/-- What a run changes, whatever the sources, the path of the outermost module
and the directory are: qualified names are different for enums with
different modules or names, and a run that comes to a report has changed
the files of companions only. A run that fails has changed nothing. -/
theorem run_confined (b : Build) (fromEnvironment : Option FilePath) (budget : Nat)
    (w : World Unit) :
    (∀ s t : Summary, s.defect? = none → t.defect? = none →
        (s.qualifiedName = t.qualifiedName ↔ s.scope = t.scope ∧ s.name = t.name)) ∧
      match b.run fromEnvironment budget w with
      | .finished (.ok report) after =>
        ∃ directory, b.directory.or fromEnvironment = some directory ∧
          Confined b directory w.tree after.tree
            (b.readings (.directory directory) budget (b.begin w)) report
      | .finished (.error _) after => after.tree = w.tree
      | .exhausted => True := by
  refine ⟨fun s t hs ht => Summary.qualifiedName_inj hs ht, ?_⟩
  unfold run
  cases hdirectory : b.directory.or fromEnvironment with
  | none => rfl
  | some directory =>
    cases budget with
    | zero => trivial
    | succ budget =>
      have haccounts := (runWith_accounts b (.directory directory) budget w).2
      simp only
      cases hrun : b.runWith (.directory directory) (budget + 1) w with
      | exhausted => trivial
      | finished result after =>
        rw [hrun] at haccounts
        cases result with
        | error f =>
          obtain ⟨-, rfl, -⟩ := haccounts
          exact tree_announce b b.root w
        | ok report =>
          obtain ⟨calls, htranscript, haccounts⟩ := haccounts
          -- The run starts with no requests; what they come to in the end is accounted for.
          have hstart : Orderly directory w.tree (withCalls w []) :=
            ⟨nofun, fun _ => .nothing directory w.tree⟩
          have hend := (orderly_preserved directory w.tree).runWith b hstart htranscript
          exact ⟨directory, rfl, confined_of_orderly haccounts hend rfl rfl⟩

end Build

end EnumCompanion
