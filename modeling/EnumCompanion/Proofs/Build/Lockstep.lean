import EnumCompanion.Proofs.Build.Account

/-!
# `EnumCompanion.Proofs.Build.Lockstep`: two runs that stay together

Two runs of one build, with hosts and worlds of their own, are compared
turn by turn. As long as both read the same in the files and find the same
files of modules, they visit the same files, and all that can tell them
apart is what their hosts do with the companions.

* `Progress`: what a run has come to, its entries and its world.
* `Lockstep`: a relation of two runs' progress that every step keeps. The
  steps are those of `Host.Preserves`, taken on both sides; the step with a
  companion is where a relation says something.
* `Lockstep.visit`, `Lockstep.takeTurns`: then visits keep the relation, and
  whole runs, by induction on the turns.
* `Lockstep.runWith`: the two runs end alike.
-/

set_option autoImplicit false

namespace EnumCompanion.Build

variable {σ τ : Type}

/-! ### What two runs have in common -/

/-- The entries and the world that a run has come to. -/
structure Progress (σ : Type) where
  entries : List Report.Entry
  world : World σ

/-- An entry that is not about the companion of a declaration. -/
def IsPlain : Report.Entry → Prop
  | .generated _ => False
  | .skipped _ => True
  | .failed f => f.isEmission = false

/-- A relation of the progress of two runs of a build that is kept while the
first run makes visits with the property `P`. A property `K` of the trees
that the first run comes to can be used on the way to them. -/
structure Lockstep (b : Build) (host : Host σ) (other : Host τ) (P : Reading → Prop)
    (K : FileTree → Prop) (R : Progress σ → Progress τ → Prop) : Prop where
  print : ∀ {es fs w v} line, R ⟨es, w⟩ ⟨fs, v⟩ → R ⟨es, w.print line⟩ ⟨fs, v.print line⟩
  note : ∀ {es fs w v} level message, R ⟨es, w⟩ ⟨fs, v⟩ →
    R ⟨es, w.note level message⟩ ⟨fs, v.note level message⟩
  /-- An entry that is the same on both sides. -/
  plain : ∀ {es fs w v e}, IsPlain e → R ⟨es, w⟩ ⟨fs, v⟩ → R ⟨es ++ [e], w⟩ ⟨fs ++ [e], v⟩
  /-- A companion, and the entry for it. -/
  emit : ∀ {es fs w v} c, R ⟨es, w⟩ ⟨fs, v⟩ → K (Build.emit host c w).2.tree →
    R ⟨es ++ [(Build.emit host c w).1], (Build.emit host c w).2⟩
      ⟨fs ++ [(Build.emit other c v).1], (Build.emit other c v).2⟩
  /-- What is true of a tree was so before a companion was put away. -/
  before : ∀ {w} c, K (Build.emit host c w).2.tree → K w.tree
  ahead : ∀ {x}, P x → K x.after
  /-- A file that is visited reads the same. -/
  reads : ∀ {p q s}, R p q → P (b.reading host s p.world) →
    items q.world.tree s.path = items p.world.tree s.path
  /-- A module of a file that is visited has the same file. -/
  finds : ∀ {p q x found}, R p q → P x → p.world.tree = x.after →
    items x.before x.source.path = .ok found →
    ∀ m ∈ (Scan.file b.marker x.source.scope found).modules,
      m.locate? q.world.tree x.source.path = m.locate? p.world.tree x.source.path

/-- Two outcomes that come from related progress. A report is the entries, and
its sentence is the last in the log. -/
inductive Alike (R : Progress σ → Progress τ → Prop) : Outcome σ → Outcome τ → Prop
  | exhausted : Alike R .exhausted .exhausted
  | failed {es fs w v f} (h : R ⟨es, w⟩ ⟨fs, v⟩) :
      Alike R (.finished (.error f) w) (.finished (.error f) v)
  | reported {es fs w v} (h : R ⟨es, w⟩ ⟨fs, v⟩) :
      Alike R (.finished (.ok ⟨es⟩) (w.note .info (Report.message ⟨es⟩)))
        (.finished (.ok ⟨fs⟩) (v.note .info (Report.message ⟨fs⟩)))

/-! ### Visits -/

/-- The visit of a file that is read: its declarations are dealt with, and then
the files of its modules are looked for. -/
theorem visit_of_items (b : Build) (host : Host σ) {s : Source} {w : World σ} {found : List Item}
    (h : items w.tree s.path = .ok found) :
    b.visit host s w =
      (.ok ⟨(b.handleAll host (Scan.file b.marker s.scope found).declarations
            (b.announce s.path w)).1,
          located (b.handleAll host (Scan.file b.marker s.scope found).declarations
            (b.announce s.path w)).2.tree s.path (Scan.file b.marker s.scope found).modules⟩,
        (unlocated (b.handleAll host (Scan.file b.marker s.scope found).declarations
            (b.announce s.path w)).2.tree s.path
          (Scan.file b.marker s.scope found).modules).reverse.foldl noteUnlocated
            (b.handleAll host (Scan.file b.marker s.scope found).declarations
              (b.announce s.path w)).2) := by
  simp only [visit, tree_announce, h, findFiles]

/-- Modules that have the same files in two trees lead to the same visits. -/
theorem located_congr {t t' : FileTree} {file : FilePath} {ms : List ModuleFile}
    (h : ∀ m ∈ ms, m.locate? t' file = m.locate? t file) :
    located t' file ms = located t file ms :=
  List.filterMap_congr fun m hm => congrArg
    (fun path? => Option.map (fun path => Source.mk path m.scope) path?) (h m hm)

/-- Modules that have the same files in two trees are without one in the same
cases. -/
theorem unlocated_congr {t t' : FileTree} {file : FilePath} {ms : List ModuleFile}
    (h : ∀ m ∈ ms, m.locate? t' file = m.locate? t file) :
    unlocated t' file ms = unlocated t file ms :=
  List.filter_congr fun m hm => congrArg Option.isNone (h m hm)

/-- The file on top of the stack is visited. -/
theorem reading_mem_readings {b : Build} {host : Host σ} {r : Run σ} {s : Source}
    {rest : List Source} (h : todo r = s :: rest) (budget : Nat) :
    b.reading host s r.world ∈ b.readings host (budget + 1) r := by
  have hback : r.pending.back? = some s := by rw [back?_eq_head?_todo, h]; rfl
  simp only [readings, hback, List.mem_cons_self]

namespace Lockstep

variable {b : Build} {host : Host σ} {other : Host τ} {P : Reading → Prop} {K : FileTree → Prop}
  {R : Progress σ → Progress τ → Prop} (h : Lockstep b host other P K R)

include h

/-! ### One file -/

/-- What is true of a tree was so before a declaration was dealt with. -/
theorem before_handle (d : Declaration) {w : World σ} (hK : K (b.handle host d w).2.tree) :
    K w.tree := by
  unfold Build.handle at hK
  split at hK
  · exact hK
  · exact hK
  · next c _ =>
    exact h.before (w := w.note .debug ("Generated " ++ c.summary.companionName ++ " for " ++ d.place))
      c hK

theorem before_handleAll (ds : List Declaration) {w : World σ}
    (hK : K (b.handleAll host ds w).2.tree) : K w.tree := by
  induction ds generalizing w with
  | nil => exact hK
  | cons d rest ih => exact h.before_handle d (ih hK)

/-- A declaration is dealt with on both sides. -/
theorem handle (d : Declaration) {es fs : List Report.Entry} {w : World σ} {v : World τ}
    (hR : R ⟨es, w⟩ ⟨fs, v⟩) (hK : K (b.handle host d w).2.tree) :
    R ⟨es ++ [(b.handle host d w).1], (b.handle host d w).2⟩
      ⟨fs ++ [(b.handle other d v).1], (b.handle other d v).2⟩ := by
  unfold Build.handle at hK ⊢
  cases hcompanion : d.companion? b.style with
  | error e => exact h.plain rfl (h.note _ _ hR)
  | ok c? =>
    rw [hcompanion] at hK
    cases c? with
    | none => exact h.plain trivial (h.note _ _ (h.note _ _ hR))
    | some c => exact h.emit c (h.note _ _ hR) hK

theorem handleAll (ds : List Declaration) {es fs : List Report.Entry} {w : World σ} {v : World τ}
    (hR : R ⟨es, w⟩ ⟨fs, v⟩) (hK : K (b.handleAll host ds w).2.tree) :
    R ⟨es ++ (b.handleAll host ds w).1, (b.handleAll host ds w).2⟩
      ⟨fs ++ (b.handleAll other ds v).1, (b.handleAll other ds v).2⟩ := by
  induction ds generalizing es fs w v with
  | nil => simpa [Build.handleAll] using hR
  | cons d rest ih =>
    have hrest : K (b.handleAll host rest (b.handle host d w).2).2.tree := hK
    have hhead := h.handle d hR (h.before_handleAll rest hrest)
    simpa [Build.handleAll] using ih hhead hrest

theorem announce (path : FilePath) {es fs : List Report.Entry} {w : World σ} {v : World τ}
    (hR : R ⟨es, w⟩ ⟨fs, v⟩) : R ⟨es, b.announce path w⟩ ⟨fs, b.announce path v⟩ := by
  unfold Build.announce
  split
  · exact h.print _ hR
  · exact hR

theorem noteUnlocated (ms : List ModuleFile) {es fs : List Report.Entry} {w : World σ}
    {v : World τ} (hR : R ⟨es, w⟩ ⟨fs, v⟩) :
    R ⟨es, ms.foldl Build.noteUnlocated w⟩ ⟨fs, ms.foldl Build.noteUnlocated v⟩ := by
  induction ms generalizing w v with
  | nil => exact hR
  | cons m ms ih => exact ih (h.note _ _ hR)

/-- The visit of a file fails on both sides, or leads to the same files on
both. -/
theorem visit (s : Source) {p : Progress σ} {q : Progress τ} (hR : R p q)
    (hP : P (b.reading host s p.world)) :
    (∃ f w v, b.visit host s p.world = (.error f, w) ∧ b.visit other s q.world = (.error f, v) ∧
        (f = .read s.path ∨ f = .parse s.path) ∧ R ⟨p.entries, w⟩ ⟨q.entries, v⟩) ∨
      ∃ x y w v, b.visit host s p.world = (.ok x, w) ∧ b.visit other s q.world = (.ok y, v) ∧
        x.next = y.next ∧ R ⟨p.entries ++ x.entries, w⟩ ⟨q.entries ++ y.entries, v⟩ := by
  have hreads := h.reads hR hP
  have hannounced := h.announce s.path hR
  cases hitems : items p.world.tree s.path with
  | error f =>
    refine .inl ⟨f, b.announce s.path p.world, b.announce s.path q.world, ?_, ?_,
      failure_of_items hitems, hannounced⟩
    · simp only [Build.visit, tree_announce, hitems]
    · simp only [Build.visit, tree_announce, hreads, hitems]
  | ok found =>
    have hvisit := visit_of_items b host hitems
    have hafter : (b.reading host s p.world).after =
        (b.handleAll host (Scan.file b.marker s.scope found).declarations
          (b.announce s.path p.world)).2.tree := by
      rw [reading, hvisit, tree_foldl_noteUnlocated]
    have hhandled := h.handleAll (Scan.file b.marker s.scope found).declarations hannounced
      (hafter ▸ h.ahead hP)
    -- In the trees that are left, every module has the same file, or none on either side.
    have hfinds := h.finds hhandled hP hafter.symm hitems
    refine .inr ⟨_, _, _, _, hvisit, visit_of_items b other (hreads.trans hitems), ?_, ?_⟩
    · exact (located_congr hfinds).symm
    · have hsame := unlocated_congr hfinds
      rw [reading] at hsame
      rw [hsame]
      exact h.noteUnlocated _ hhandled

/-! ### Whole runs -/

/-- Two runs with the same stack end alike. The induction is on the turns: a
turn visits the same file on both sides, and puts the same files on the
stack. -/
theorem takeTurns {budget : Nat} {r : Run σ} {r' : Run τ} (hpending : r'.pending = r.pending)
    (hroot : r'.atRoot = r.atRoot) (hR : R ⟨r.entries, r.world⟩ ⟨r'.entries, r'.world⟩)
    (hP : ∀ x ∈ b.readings host budget r, P x) :
    Alike R (b.takeTurns host budget r) (b.takeTurns other budget r') := by
  induction budget generalizing r r' with
  | zero => exact .exhausted
  | succ budget ih =>
    have htodo' : todo r' = todo r := by rw [todo, todo, hpending]
    cases htodo : todo r with
    | nil =>
      rw [Build.takeTurns, Build.takeTurns, turn_of_todo_eq_nil b host htodo,
        turn_of_todo_eq_nil b other (htodo'.trans htodo)]
      exact .reported hR
    | cons s rest =>
      have htodo' := htodo'.trans htodo
      have hhead : P (b.reading host s r.world) := hP _ (reading_mem_readings htodo budget)
      rcases h.visit s hR hhead with ⟨f, w, v, hv, hv', hf, hfailed⟩ |
        ⟨x, y, w, v, hv, hv', hnext, hvisited⟩
      · -- The file is read on neither side: at the root both runs fail, below it both go on.
        cases hr : r.atRoot with
        | true =>
          have hturn := turn_of_root_error hr htodo hv
          have hturn' := turn_of_root_error (hroot.trans hr) htodo' hv'
          rw [Build.takeTurns, Build.takeTurns, hturn, hturn']
          exact .failed hfailed
        | false =>
          have hturn := turn_of_error hr htodo hv
          have hturn' := turn_of_error (hroot.trans hr) htodo' hv'
          rw [readings_succ_of_goesOn htodo hturn] at hP
          rw [takeTurns_succ_of_goesOn hturn, takeTurns_succ_of_goesOn hturn']
          have hplain : IsPlain (.failed f) := by
            rcases hf with rfl | rfl <;> rfl
          exact ih (by rw [afterFailure, afterFailure, hpending]) rfl
            (h.note _ _ (h.plain hplain hfailed)) fun x hx => hP x (List.mem_cons_of_mem _ hx)
      · -- The file is read on both sides, and leads both to the same files.
        have hturn := turn_of_ok htodo hv
        have hturn' := turn_of_ok htodo' hv'
        rw [readings_succ_of_goesOn htodo hturn] at hP
        rw [takeTurns_succ_of_goesOn hturn, takeTurns_succ_of_goesOn hturn']
        exact ih (by rw [afterVisit, afterVisit, hpending, hnext]) rfl hvisited
          fun x hx => hP x (List.mem_cons_of_mem _ hx)

/-- Two runs of a build end alike if they start from related worlds and the
visits of the first have the property. -/
theorem runWith (budget : Nat) {w : World σ} {v : World τ} (hR : R ⟨[], w⟩ ⟨[], v⟩)
    (hP : ∀ x ∈ b.readings host budget (b.begin w), P x) :
    Alike R (b.runWith host budget w) (b.runWith other budget v) :=
  h.takeTurns rfl rfl hR hP

end Lockstep

end EnumCompanion.Build
