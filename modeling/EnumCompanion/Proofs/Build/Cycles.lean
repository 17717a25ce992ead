import EnumCompanion.Proofs.Build.ModuleGraph
import Mathlib.Data.Fintype.Card

/-!
# `EnumCompanion.Proofs.Build.Cycles`: when a run ends

A run keeps no list of the files it has visited. It ends if and only if
the sources are `Acyclic`: no path that the root leads to leads back to
itself. Paths are compared as they are written, so a file that leads back
to itself by a longer path each time is visited until its path is too long
to be one.

* `exists_walk_of_acyclic`: without a cycle, the walk from any file ends.
  The induction is on the files below it, of which there are finitely many.
* `acyclic_of_walk`: with a cycle, a walk would have walked from the same
  path again, with less depth each time.
* `runWith_ends_iff_acyclic`: both together, for runs.

There are crates in which every module has its own file, as the compiler
sees it, but which have a cycle here: `libraryBesideMain_endless`.
-/

set_option autoImplicit false

namespace EnumCompanion

variable {σ : Type}

/-- The report of a run that has ended with one. -/
def Outcome.report? : Outcome σ → Option Report
  | .finished (.ok report) _ => some report
  | _ => none

theorem Outcome.exists_of_report? {o : Outcome σ} {report : Report} (h : o.report? = some report) :
    ∃ last, o = .finished (.ok report) last := by
  cases o with
  | exhausted => cases h
  | finished result last =>
    cases result with
    | error f => cases h
    | ok report' =>
      obtain rfl := Option.some.inj h
      exact ⟨last, rfl⟩

namespace Build

/-- No path that the root leads to leads back to itself. -/
def Acyclic (b : Build) (t : FileTree) : Prop :=
  ∀ p, b.Reaches t p → ¬ Relation.TransGen (b.Declares t) p p

/-! ### Without a cycle -/

/-- Below a path that is reached, there are only paths that are reached, and
no path is below itself. -/
theorem wellFounded_below {b : Build} {t : FileTree} (hacyclic : b.Acyclic t) :
    WellFounded fun p q : {p | b.Reaches t p} => Relation.TransGen (b.Declares t) q.1 p.1 := by
  have hfinite : Finite {p | b.Reaches t p} := b.finite_reaches t
  have htrans : IsTrans {p | b.Reaches t p} fun p q =>
      Relation.TransGen (b.Declares t) q.1 p.1 :=
    ⟨fun _ _ _ hpq hqr => hqr.trans hpq⟩
  have hirrefl : Std.Irrefl fun p q : {p | b.Reaches t p} =>
      Relation.TransGen (b.Declares t) q.1 p.1 :=
    ⟨fun p hp => hacyclic p.1 p.2 hp⟩
  exact Finite.wellFounded_of_trans_of_irrefl _

/-- If the walk from each of some files ends, in any world with a property
that walks keep, then so does the walk from all of them in turn. -/
theorem exists_walkAll {b : Build} {host : Host σ} {P : FileTree → Prop} (hhost : host.Keeps P)
    {ss : List Source}
    (hwalk : ∀ s ∈ ss, ∀ w : World σ, P w.tree → ∃ depth all, b.walk host depth s w = some all)
    {w : World σ} (hw : P w.tree) : ∃ depth all, b.walkAll host depth ss w = some all := by
  induction ss generalizing w with
  | nil => exact ⟨0, _, rfl⟩
  | cons s ss ih =>
    obtain ⟨depth, first, hfirst⟩ := hwalk s List.mem_cons_self w hw
    obtain ⟨depth', others, hothers⟩ :=
      ih (fun s' hs' => hwalk s' (List.mem_cons_of_mem _ hs')) (hhost.walk b hw hfirst)
    -- Both walks fit into the greater depth.
    refine ⟨max depth depth', first.append others, ?_⟩
    have hothers' : b.walkAll host (max depth depth') ss first.world = some others :=
      inTurn_mono (fun _ _ _ => walk_le (le_max_right _ _)) hothers
    rw [walkAll, inTurn_cons, walk_le (le_max_left _ _) hfirst, Option.bind_some]
    exact congrArg (Option.map first.append) hothers'

/-- Without a cycle, the walk from any file that is reached ends. -/
theorem exists_walk_of_acyclic {b : Build} {host : Host σ} {t : FileTree}
    (hhost : host.Keeps (b.SameSources t)) (hacyclic : b.Acyclic t)
    (p : {p | b.Reaches t p}) :
    ∀ (scope : String) (w : World σ), b.SameSources t w.tree →
      ∃ depth all, b.walk host depth ⟨p.1, scope⟩ w = some all := by
  -- The induction is on the files below: what `p` declares is below it.
  induction p using (wellFounded_below hacyclic).induction with
  | _ p ih =>
    intro scope w hw
    cases hv : b.visit host ⟨p.1, scope⟩ w with
    | mk outcome after =>
      cases outcome with
      | error f => exact ⟨1, _, walk_succ_of_error hv 0⟩
      | ok v =>
        have hp : b.Reaches t (Source.mk p.1 scope).path := p.2
        have hafter : b.SameSources t after.tree := hhost.after_visit hv hw
        have hbelow : ∀ s ∈ v.next, ∀ w' : World σ, b.SameSources t w'.tree →
            ∃ depth all, b.walk host depth s w' = some all := by
          intro s hs w' hw'
          have hdeclares : b.Declares t p.1 s.path :=
            (exists_next_iff hhost hp hw hv s.path).mp ⟨s, hs, rfl⟩
          exact ih ⟨s.path, p.2.tail hdeclares⟩ (.single hdeclares) s.scope w' hw'
        obtain ⟨depth, below, hall⟩ := exists_walkAll hhost hbelow hafter
        exact ⟨depth + 1, _, by rw [walk_succ_of_ok hv, hall, Option.map_some]⟩

/-- A run ends if the walk from its root does. -/
theorem exists_finished_of_walk {b : Build} {host : Host σ} {depth : Nat} {w : World σ}
    {all : Walk σ} (h : b.walk host depth b.start w = some all) :
    ∃ budget result after, b.runWith host budget w = .finished result after := by
  cases depth with
  | zero => simp [walk] at h
  | succ depth =>
    cases hv : b.visit host b.start w with
    | mk outcome seen =>
      cases outcome with
      | error f => exact ⟨1, _, _, runWith_of_unread host 0 w (visit_of_error hv).1⟩
      | ok v =>
        rw [walk_succ_of_ok hv] at h
        obtain ⟨below, hbelow, -⟩ := Option.map_eq_some_iff.mp h
        have hturn := turn_of_ok (todo_begin b w) hv
        have htodo : todo (afterVisit (b.begin w) v seen) = v.next ++ [] :=
          todo_afterVisit (todo_begin b w) v seen
        obtain ⟨turns, r, hlead, hdone⟩ :=
          exists_leads_inTurn exists_leads_walk hbelow rfl htodo rfl
        -- What is left is the turn that finds nothing to do.
        have hlast : b.takeTurns host 1 r
            = .finished (.ok ⟨r.entries⟩) (r.world.note .info (Report.message ⟨r.entries⟩)) := by
          rw [takeTurns, turn_of_todo_eq_nil b host hdone.todo_eq]
        have hturns := (((Leads.turn (todo_begin b w) hturn).trans hlead) 1).1
        exact ⟨1 + (turns + 1), _, _, hturns.trans hlast⟩

/-! ### With a cycle -/

/-- A path from which a walk ends does not lead back to itself. The induction
is on the depth of the walk. -/
theorem not_transGen_of_walk {b : Build} {host : Host σ} {t : FileTree}
    (hhost : host.Keeps (b.SameSources t)) {depth : Nat} {s : Source} {w : World σ} {all : Walk σ}
    (hs : b.Reaches t s.path) (hw : b.SameSources t w.tree)
    (h : b.walk host depth s w = some all) :
    ¬ Relation.TransGen (b.Declares t) s.path s.path := by
  induction depth using Nat.strong_induction_on generalizing s w all with
  | _ depth ih =>
    -- The walk has come by the same path again with less depth, and there the path is on the
    -- same cycle.
    intro hcycle
    obtain ⟨less, hless, s', w', all', hpath, hw', hall', -⟩ :=
      exists_walk_below hhost hs hw h hcycle
    have hs' : b.Reaches t s'.path := hpath ▸ hs
    exact ih less hless hs' hw' hall' (hpath ▸ hcycle)

/-- With a cycle, the walk from the root does not end. -/
theorem acyclic_of_walk {b : Build} {host : Host σ} {t : FileTree}
    (hhost : host.Keeps (b.SameSources t)) {depth : Nat} {w : World σ} {all : Walk σ}
    (hw : b.SameSources t w.tree) (h : b.walk host depth b.start w = some all) : b.Acyclic t := by
  have hroot : b.Reaches t b.start.path := .refl
  intro p hp
  obtain rfl | hbelow := Relation.reflTransGen_iff_eq_or_transGen.mp hp
  · exact not_transGen_of_walk hhost hroot hw h
  · obtain ⟨less, _, s', w', all', rfl, hw', hall', -⟩ :=
      exists_walk_below hhost hroot hw h hbelow
    exact not_transGen_of_walk hhost hp hw' hall'

/-- A run that ends has walked from its root. -/
theorem exists_walk_of_finished {b : Build} {host : Host σ} {budget : Nat} {w last : World σ}
    {result : Except Failure Report} (h : b.runWith host budget w = .finished result last) :
    ∃ depth all, b.walk host depth b.start w = some all ∧
      b.stops host budget (b.begin w) = all.stops := by
  cases budget with
  | zero => simp [runWith, takeTurns] at h
  | succ budget =>
    cases hv : b.visit host b.start w with
    | mk outcome after =>
      cases outcome with
      | error f =>
        refine ⟨1, _, walk_succ_of_error hv 0, ?_⟩
        have hback : (b.begin w).pending.back? = some b.start := rfl
        simp only [stops, hback, turn_of_root_error rfl (todo_begin b w) hv]
        rfl
      | ok v =>
        have hturn := turn_of_ok (todo_begin b w) hv
        rw [runWith, takeTurns_succ_of_goesOn hturn] at h
        obtain ⟨depth, below, hbelow, hstops, _⟩ := walkAll_of_takeTurns rfl h
        rw [todo_afterVisit (todo_begin b w), List.append_nil] at hbelow
        refine ⟨depth + 1, _, by rw [walk_succ_of_ok hv]; exact congrArg _ hbelow, ?_⟩
        rw [stops_succ_of_goesOn (todo_begin b w) hturn, hstops]
        rfl

/-! ### Runs -/

theorem acyclic_of_finished {b : Build} {host : Host σ} {w last : World σ} {budget : Nat}
    {result : Except Failure Report} (hhost : host.Keeps (b.SameSources w.tree))
    (h : b.runWith host budget w = .finished result last) : b.Acyclic w.tree := by
  obtain ⟨depth, all, hall, -⟩ := exists_walk_of_finished h
  exact acyclic_of_walk hhost (.refl b w.tree) hall

/-- A run whose host leaves the sources alone ends, with some budget of
turns, exactly if no path that the root leads to leads back to itself. -/
theorem runWith_ends_iff_acyclic (b : Build) (host : Host σ) (w : World σ)
    (hhost : host.Keeps (b.SameSources w.tree)) :
    (∃ budget result after, b.runWith host budget w = .finished result after) ↔
      b.Acyclic w.tree := by
  constructor
  · rintro ⟨budget, result, after, h⟩
    exact acyclic_of_finished hhost h
  · intro hacyclic
    obtain ⟨depth, all, hall⟩ :=
      exists_walk_of_acyclic hhost hacyclic ⟨b.root, .refl⟩ b.scope w (.refl b w.tree)
    exact exists_finished_of_walk hall

/-- A library whose only module is in a file beside its root. -/
def oneModule : FileTree where
  here := ["work", "here"]
  nodes :=
    [([], .directory), (["work"], .directory), (["work", "here"], .directory),
      (["work", "here", "src"], .directory),
      (["work", "here", "src", "lib.rs"], .file (.text "mod a;")),
      (["work", "here", "src", "a.rs"], .file (.text ""))]

/-- The run on a library with one module ends after two visits, so the
library has no cycle. -/
theorem oneModule_acyclic :
    (Host.recorder []).Keeps (SameSources {} oneModule) ∧ Acyclic {} oneModule := by
  have hhost := Host.recorder_keeps [] (SameSources {} oneModule)
  have hreport : (runWith {} (.recorder []) 3 (.fresh oneModule .empty)).report? = some ⟨[]⟩ := by
    decide +kernel
  obtain ⟨last, hrun⟩ := Outcome.exists_of_report? hreport
  refine ⟨hhost, (runWith_ends_iff_acyclic {} _ (.fresh oneModule .empty) hhost).mp ?_⟩
  exact ⟨3, .ok ⟨[]⟩, last, hrun⟩

/-- A program with a library as its module. The library has a module of its
own name, which is in the directory named for the library. -/
def libraryBesideMain : FileTree where
  here := ["work", "here"]
  nodes :=
    [([], .directory), (["work"], .directory), (["work", "here"], .directory),
      (["work", "here", "src"], .directory),
      (["work", "here", "src", "main.rs"], .file (.text "mod lib;")),
      (["work", "here", "src", "lib.rs"], .file (.text "mod lib;")),
      (["work", "here", "src", "lib"], .directory),
      (["work", "here", "src", "lib", "lib.rs"], .file (.text ""))]

/-- Not every run ends: the library is looked for beside itself, as if it were
a root, and so is taken for its own module over and over. -/
theorem libraryBesideMain_endless :
    ¬ ∃ budget result after,
      runWith { root := ⟨"src/main.rs"⟩ } (.recorder []) budget (.fresh libraryBesideMain .empty)
        = .finished result after := by
  rintro ⟨budget, result, after, h⟩
  let b : Build := { root := ⟨"src/main.rs"⟩ }
  let lib : ModuleFile := ⟨"crate::lib", [], "lib", none⟩
  have hmain : b.declared libraryBesideMain ⟨"src/main.rs"⟩ = [lib] := by decide +kernel
  have hlib : b.declared libraryBesideMain ⟨"src/lib.rs"⟩ = [lib] := by decide +kernel
  have hfromMain : lib.locate? libraryBesideMain ⟨"src/main.rs"⟩ = some ⟨"src/lib.rs"⟩ := by
    decide +kernel
  have hfromLib : lib.locate? libraryBesideMain ⟨"src/lib.rs"⟩ = some ⟨"src/lib.rs"⟩ := by
    decide +kernel
  have hreaches : b.Reaches libraryBesideMain ⟨"src/lib.rs"⟩ :=
    .single ⟨lib, by rw [hmain]; exact List.mem_cons_self, hfromMain⟩
  have hcycle : b.Declares libraryBesideMain ⟨"src/lib.rs"⟩ ⟨"src/lib.rs"⟩ :=
    ⟨lib, by rw [hlib]; exact List.mem_cons_self, hfromLib⟩
  exact acyclic_of_finished (Host.recorder_keeps [] _) h _ hreaches (.single hcycle)

end Build

end EnumCompanion
