import EnumCompanion.Proofs.Build.Preorder
import Mathlib.Data.List.Forall2

/-!
# `EnumCompanion.Proofs.Build.Account`: every declaration has its entry

A run visits files, and the report is about what it finds in them. This
module says what each entry is about, and what the host is asked to do for
it.

* `Subject`: what an entry is about. A file that is read gives its
  declarations; a file that cannot be read gives itself.
* `Settles`: what becomes of a subject, the one entry and the requests to
  the host.
* `transcribed`: a host that writes down every request, whatever the host
  behind it does. `exists_settles_handle` goes from one declaration to
  `exists_settles_takeTurns` for a run with any stack.
* `runWith_accounts`: a run fails if and only if the root cannot be read,
  and then asks nothing of the host; any report has its `Accounts`.
-/

set_option autoImplicit false

namespace EnumCompanion

/-- Whether a failure is that of a companion that could not be put away. -/
def Failure.isEmission : Failure → Bool
  | .emission _ => true
  | _ => false

namespace Declaration

/-! ### Enums and their companions -/

/-- Whether a declaration is one of an enum. -/
def IsEnum (d : Declaration) : Prop :=
  ∃ attributes name isGeneric variants head body,
    d.item = .leaf attributes (.enumeration name isGeneric variants) head body

theorem isEnum_of_summary? {d : Declaration} {s : Summary} (h : d.summary? = .ok (some s)) :
    IsEnum d := by
  unfold summary? at h
  split at h
  · cases h
  · split at h
    · next attributes name isGeneric variants head body hitem =>
      exact ⟨attributes, name, isGeneric, variants, head, body, hitem⟩
    · cases h

theorem not_isEnum_of_summary? {d : Declaration} (h : d.summary? = .ok none) : ¬ IsEnum d := by
  rintro ⟨attributes, name, isGeneric, variants, head, body, hitem⟩
  unfold summary? at h
  rw [hitem] at h
  split at h
  · cases h
  · cases hs : d.enumSummary name isGeneric variants <;> simp [hs] at h

theorem companion?_of_error {d : Declaration} {e : Defect} (h : d.summary? = .error e)
    (style : Companion.Style) : d.companion? style = .error e := by
  rw [companion?, h]
  rfl

theorem companion?_of_none {d : Declaration} (h : d.summary? = .ok none)
    (style : Companion.Style) : d.companion? style = .ok none := by
  rw [companion?, h]
  rfl

theorem companion?_of_some {d : Declaration} {s : Summary} (h : d.summary? = .ok (some s))
    (style : Companion.Style) :
    d.companion? style = (Companion.generate style s).map fun text => some ⟨s, text⟩ := by
  rw [companion?, h]
  cases htext : Companion.generate style s <;>
    simp [htext, bind, Except.bind, pure, Except.pure, Except.map]

end Declaration

end EnumCompanion

namespace EnumCompanion.Build

variable {σ : Type}

/-! ### Requests -/

/-- A request to a host, and the answer to it. -/
inductive Call where
  | emit (name text : String) (answer : Option FilePath)
  | report (message : String)
  deriving DecidableEq, Repr

/-- The message of a request, if it is one to report. -/
def Call.message? : Call → Option String
  | .emit _ _ _ => none
  | .report message => some message

/-- A world whose host state has a list of requests beside it. -/
def withCalls (w : World σ) (calls : List Call) : World (σ × List Call) :=
  withState w (w.state, calls)

/-- The host that writes down what another is asked to do. -/
def transcribed (host : Host σ) : Host (σ × List Call) where
  emit name text w :=
    let (answer, after) := host.emit name text (withState w w.state.1)
    (answer, withCalls after (w.state.2 ++ [.emit name text answer]))
  report message w :=
    withCalls (host.report message (withState w w.state.1)) (w.state.2 ++ [.report message])

/-! ### Subjects and what becomes of them -/

/-- What an entry of a report is about. -/
inductive Subject where
  /-- A declaration in a file. -/
  | declaration (d : Declaration)
  /-- A file that could not be read, and the failure to do so. -/
  | unread (path : FilePath) (f : Failure)

/-- What becomes of a subject. -/
structure Settlement where
  entry : Report.Entry
  /-- What the host is asked to do, in order. -/
  calls : List Call

/-- What may become of each subject. The constructors exclude each other, but
for the answer of the host to a companion. -/
inductive Settles (b : Build) : Subject → Settlement → Prop
  /-- The companion of an enum is where the host says. -/
  | generated {d : Declaration} {s : Summary} {text : String} {path : FilePath}
      (henum : d.IsEnum) (hsummary : d.summary? = .ok (some s))
      (htext : Companion.generate b.style s = .ok text) :
      Settles b (.declaration d) ⟨.generated path, [.emit s.qualifiedName text (some path)]⟩
  /-- The host could not put the companion away, and is told so once. -/
  | refused {d : Declaration} {s : Summary} {text : String}
      (henum : d.IsEnum) (hsummary : d.summary? = .ok (some s))
      (htext : Companion.generate b.style s = .ok text) :
      Settles b (.declaration d)
        ⟨.failed (.emission s.qualifiedName),
          [.emit s.qualifiedName text none, .report emissionFailure]⟩
  /-- What is no enum is passed over. -/
  | skipped {d : Declaration} (henum : ¬ d.IsEnum) (hsummary : d.summary? = .ok none) :
      Settles b (.declaration d) ⟨.skipped d.place, []⟩
  /-- The declaration has no summary, or the summary has no companion. -/
  | unfit {d : Declaration} {e : Defect}
      (hdefect : d.summary? = .error e ∨
        ∃ s, d.summary? = .ok (some s) ∧ Companion.generate b.style s = .error e) :
      Settles b (.declaration d) ⟨.failed (.defect e), []⟩
  /-- A file that could not be read gives the failure and nothing else. -/
  | unread {path : FilePath} {f : Failure} (hfailure : f = .read path ∨ f = .parse path) :
      Settles b (.unread path f) ⟨.failed f, []⟩

/-! ### One declaration -/

/-- Writing requests down changes nothing in what is done with a companion. -/
theorem emit_transcribed (host : Host σ) (c : Companion) (w : World σ) :
    ∃ calls,
      (∀ seen, emit (transcribed host) c (withCalls w seen)
        = ((emit host c w).1, withCalls (emit host c w).2 (seen ++ calls))) ∧
      ((∃ path, (emit host c w).1 = .generated path ∧
          calls = [.emit c.qualifiedName c.text (some path)]) ∨
        ((emit host c w).1 = .failed (.emission c.qualifiedName) ∧
          calls = [.emit c.qualifiedName c.text none, .report emissionFailure])) := by
  -- What the transcribing host does with a name and a text, in terms of the other.
  have hgiven : ∀ seen, (transcribed host).emit c.qualifiedName c.text (withCalls w seen)
      = ((host.emit c.qualifiedName c.text w).1,
          withCalls (host.emit c.qualifiedName c.text w).2
            (seen ++ [.emit c.qualifiedName c.text (host.emit c.qualifiedName c.text w).1])) :=
    fun _ => rfl
  cases h : host.emit c.qualifiedName c.text w with
  | mk answer after =>
    cases answer with
    | some path =>
      refine ⟨[.emit c.qualifiedName c.text (some path)], fun seen => ?_, .inl ⟨path, ?_, rfl⟩⟩
      · simp only [emit, hgiven, h]
      · simp only [emit, h]
    | none =>
      refine ⟨[.emit c.qualifiedName c.text none, .report emissionFailure], fun seen => ?_,
        .inr ⟨?_, rfl⟩⟩
      · have hreport : ∀ calls, (transcribed host).report emissionFailure (withCalls after calls)
            = withCalls (host.report emissionFailure after) (calls ++ [.report emissionFailure]) :=
          fun _ => rfl
        simp only [emit, hgiven, h, hreport, List.append_assoc, List.singleton_append]
      · simp only [emit, h]

/-- A declaration is settled by one entry, and by requests that the host is
given whether they are written down or not. -/
theorem exists_settles_handle (b : Build) (host : Host σ) (d : Declaration) (w : World σ) :
    ∃ calls, Settles b (.declaration d) ⟨(b.handle host d w).1, calls⟩ ∧
      ∀ seen, b.handle (transcribed host) d (withCalls w seen)
        = ((b.handle host d w).1, withCalls (b.handle host d w).2 (seen ++ calls)) := by
  unfold handle
  cases hs : d.summary? with
  | error e =>
    rw [Declaration.companion?_of_error hs]
    exact ⟨[], .unfit (.inl hs), fun seen => by rw [List.append_nil]; rfl⟩
  | ok s? =>
    cases s? with
    | none =>
      rw [Declaration.companion?_of_none hs]
      refine ⟨[], .skipped (Declaration.not_isEnum_of_summary? hs) hs, fun seen => ?_⟩
      rw [List.append_nil]
      rfl
    | some s =>
      rw [Declaration.companion?_of_some hs]
      cases htext : Companion.generate b.style s with
      | error e =>
        exact ⟨[], .unfit (.inr ⟨s, hs, htext⟩), fun seen => by rw [List.append_nil]; rfl⟩
      | ok text =>
        -- Only here the host is asked at all, and it decides between the last two ways.
        obtain ⟨calls, hcalls, hcases⟩ := emit_transcribed host ⟨s, text⟩
          (w.note .debug ("Generated " ++ s.companionName ++ " for " ++ d.place))
        refine ⟨calls, ?_, hcalls⟩
        obtain ⟨path, hentry, rfl⟩ | ⟨hentry, rfl⟩ := hcases
        · show Settles b (.declaration d) ⟨(emit host ⟨s, text⟩ _).1, _⟩
          rw [hentry]
          exact .generated (Declaration.isEnum_of_summary? hs) hs htext
        · show Settles b (.declaration d) ⟨(emit host ⟨s, text⟩ _).1, _⟩
          rw [hentry]
          exact .refused (Declaration.isEnum_of_summary? hs) hs htext

/-! ### One file -/

/-- A file without items could not be read, or is no source text. -/
theorem failure_of_items {tree : FileTree} {path : FilePath} {f : Failure}
    (h : items tree path = .error f) : f = .read path ∨ f = .parse path := by
  unfold items at h
  split at h
  · cases h
    exact .inl rfl
  · split at h
    · cases h
      exact .inr rfl
    · cases h

theorem exists_settles_handleAll (b : Build) (host : Host σ) (ds : List Declaration) (w : World σ) :
    ∃ settled : List Settlement,
      List.Forall₂ (Settles b) (ds.map .declaration) settled ∧
        (b.handleAll host ds w).1 = settled.map Settlement.entry ∧
        ∀ seen, b.handleAll (transcribed host) ds (withCalls w seen)
          = ((b.handleAll host ds w).1, withCalls (b.handleAll host ds w).2
              (seen ++ settled.flatMap Settlement.calls)) := by
  induction ds generalizing w with
  | nil => exact ⟨[], .nil, rfl, fun seen => by simp [handleAll]⟩
  | cons d rest ih =>
    obtain ⟨calls, hsettles, hcalls⟩ := exists_settles_handle b host d w
    obtain ⟨settled, hall, hentries, hmore⟩ := ih (b.handle host d w).2
    refine ⟨⟨(b.handle host d w).1, calls⟩ :: settled, .cons hsettles hall, ?_, fun seen => ?_⟩
    · simp only [handleAll, hentries, List.map_cons]
    · simp only [handleAll, hcalls, hmore, List.flatMap_cons, List.append_assoc]

theorem withCalls_announce (b : Build) (path : FilePath) (w : World σ) (calls : List Call) :
    b.announce path (withCalls w calls) = withCalls (b.announce path w) calls := by
  unfold announce
  split <;> rfl

theorem tree_foldl_noteUnlocated (ms : List ModuleFile) (w : World σ) :
    (ms.foldl noteUnlocated w).tree = w.tree := by
  induction ms generalizing w with
  | nil => rfl
  | cons m ms ih => exact ih (noteUnlocated w m)

theorem withCalls_foldl_noteUnlocated (ms : List ModuleFile) (w : World σ) (calls : List Call) :
    ms.foldl noteUnlocated (withCalls w calls) = withCalls (ms.foldl noteUnlocated w) calls := by
  rw [withCalls, foldl_noteUnlocated_withState, withCalls, state_foldl_noteUnlocated]

/-- Looking for the files of modules asks nothing of the host. -/
theorem withCalls_findFiles (file : FilePath) (ms : List ModuleFile) (w : World σ)
    (calls : List Call) :
    findFiles file ms (withCalls w calls)
      = ((findFiles file ms w).1, withCalls (findFiles file ms w).2 calls) := by
  simp only [findFiles, withCalls_foldl_noteUnlocated]
  rfl

/-- A visit fails exactly if the file cannot be read, and then asks nothing of
the host. -/
theorem visit_of_error {b : Build} {host : Host σ} {s : Source} {w after : World σ} {f : Failure}
    (h : b.visit host s w = (.error f, after)) :
    items w.tree s.path = .error f ∧
      after = b.announce s.path w ∧
      ∀ seen,
        b.visit (transcribed host) s (withCalls w seen) = (.error f, withCalls after seen) := by
  have htree : ∀ seen, (withCalls (b.announce s.path w) seen).tree = w.tree :=
    fun _ => tree_announce b s.path w
  unfold visit at h
  simp only [tree_announce] at h
  cases hitems : items w.tree s.path with
  | ok found => simp [hitems] at h
  | error f' =>
    simp only [hitems, Prod.mk.injEq, Except.error.injEq] at h
    obtain ⟨rfl, rfl⟩ := h
    refine ⟨rfl, rfl, fun seen => ?_⟩
    simp only [visit, withCalls_announce, htree, hitems]

/-- A visit that succeeds settles every declaration of the file, and leads to
the files of its modules as they are found afterwards. -/
theorem visit_of_ok {b : Build} {host : Host σ} {s : Source} {w after : World σ} {v : Visit}
    (h : b.visit host s w = (.ok v, after)) :
    ∃ found settled, items w.tree s.path = .ok found ∧
      List.Forall₂ (Settles b)
        ((Scan.file b.marker s.scope found).declarations.map .declaration) settled ∧
      v.entries = settled.map Settlement.entry ∧
      v.next = located after.tree s.path (Scan.file b.marker s.scope found).modules ∧
      ∀ seen, b.visit (transcribed host) s (withCalls w seen)
        = (.ok v, withCalls after (seen ++ settled.flatMap Settlement.calls)) := by
  have htree : ∀ seen, (withCalls (b.announce s.path w) seen).tree = w.tree :=
    fun _ => tree_announce b s.path w
  unfold visit at h
  simp only [tree_announce] at h
  cases hitems : items w.tree s.path with
  | error f => simp [hitems] at h
  | ok found =>
    simp only [hitems, Prod.mk.injEq, Except.ok.injEq] at h
    obtain ⟨rfl, rfl⟩ := h
    obtain ⟨settled, hall, hentries, hcalls⟩ := exists_settles_handleAll b host
      (Scan.file b.marker s.scope found).declarations (b.announce s.path w)
    refine ⟨found, settled, rfl, hall, hentries, ?_, fun seen => ?_⟩
    · simp only [findFiles, tree_foldl_noteUnlocated]
    · simp only [visit, withCalls_announce, htree, hitems, hcalls, withCalls_findFiles]

/-! ### Whole runs -/

/-- A visit of a run. -/
structure Reading where
  source : Source
  /-- The tree that the file is read from. -/
  before : FileTree
  /-- The tree in which the files of its modules are looked for, once its
  declarations are dealt with. -/
  after : FileTree

namespace Reading

/-- What the report has to say about a visit. -/
def subjects (b : Build) (v : Reading) : List Subject :=
  match items v.before v.source.path with
  | .error f => [.unread v.source.path f]
  | .ok found => (Scan.file b.marker v.source.scope found).declarations.map .declaration

/-- The files of modules that a visit finds. -/
def next (b : Build) (v : Reading) : List Source :=
  match items v.before v.source.path with
  | .error _ => []
  | .ok found => located v.after v.source.path (Scan.file b.marker v.source.scope found).modules

end Reading

/-- The visit that a file gets in a world. -/
def reading (b : Build) (host : Host σ) (s : Source) (w : World σ) : Reading :=
  ⟨s, w.tree, (b.visit host s w).2.tree⟩

/-- The visits of a run, in at most the given number of turns. -/
def readings (b : Build) (host : Host σ) : Nat → Run σ → List Reading
  | 0, _ => []
  | budget + 1, r =>
    match r.pending.back? with
    | none => []
    | some s =>
      b.reading host s r.world ::
        match b.turn host r with
        | .ends _ _ => []
        | .goesOn r => b.readings host budget r

/-- A run whose host state has a list of requests beside it. -/
def runWithCalls (r : Run σ) (calls : List Call) : Run (σ × List Call) :=
  ⟨r.pending, r.atRoot, r.entries, withCalls r.world calls⟩

theorem readings_of_todo_eq_nil {b : Build} {host : Host σ} {r : Run σ} (h : todo r = [])
    (budget : Nat) : b.readings host budget r = [] := by
  have hback : r.pending.back? = none := by rw [back?_eq_head?_todo, h]; rfl
  cases budget with
  | zero => rfl
  | succ budget => simp only [readings, hback]

theorem readings_succ_of_goesOn {b : Build} {host : Host σ} {r r' : Run σ} {s : Source}
    {rest : List Source} (h : todo r = s :: rest) (hturn : b.turn host r = .goesOn r')
    (budget : Nat) :
    b.readings host (budget + 1) r = b.reading host s r.world :: b.readings host budget r' := by
  have hback : r.pending.back? = some s := by rw [back?_eq_head?_todo, h]; rfl
  simp only [readings, hback, hturn]

/-- At the root, a visit that fails ends the run. -/
theorem turn_of_root_error {b : Build} {host : Host σ} {r : Run σ} {s : Source} {rest : List Source}
    {f : Failure} {after : World σ} (hr : r.atRoot = true) (h : todo r = s :: rest)
    (hv : b.visit host s r.world = (.error f, after)) : b.turn host r = .ends (.error f) after := by
  have hback : r.pending.back? = some s := by rw [back?_eq_head?_todo, h]; rfl
  simp [turn, hback, hv, hr]

/-- With a file on the stack, only a root that cannot be read ends the run. -/
theorem exists_error_of_ends {b : Build} {host : Host σ} {r : Run σ} {s : Source}
    {rest : List Source} {result : Except Failure Report} {after : World σ}
    (h : todo r = s :: rest) (hturn : b.turn host r = .ends result after) :
    ∃ f, result = .error f := by
  cases hv : b.visit host s r.world with
  | mk outcome w =>
    cases outcome with
    | ok v => cases (turn_of_ok h hv).symm.trans hturn
    | error f =>
      cases hr : r.atRoot with
      | false => cases (turn_of_error hr h hv).symm.trans hturn
      | true =>
        cases (turn_of_root_error hr h hv).symm.trans hturn
        exact ⟨f, rfl⟩

/-- A turn with a file on the stack settles what the file gives, and puts what
the file leads to in its place on the stack. -/
theorem exists_settles_turn {b : Build} {host : Host σ} {r r' : Run σ} {s : Source}
    {rest : List Source} (h : todo r = s :: rest) (hturn : b.turn host r = .goesOn r') :
    ∃ settled : List Settlement,
      List.Forall₂ (Settles b) ((b.reading host s r.world).subjects b) settled ∧
      todo r' = (b.reading host s r.world).next b ++ rest ∧
      r'.entries = r.entries ++ settled.map Settlement.entry ∧
      ∀ seen, b.turn (transcribed host) (runWithCalls r seen)
        = .goesOn (runWithCalls r' (seen ++ settled.flatMap Settlement.calls)) := by
  have htodo : ∀ seen, todo (runWithCalls r seen) = s :: rest := fun _ => h
  cases hv : b.visit host s r.world with
  | mk outcome w =>
    cases outcome with
    | error f =>
      obtain ⟨hitems, -, hcalls⟩ := visit_of_error hv
      cases hr : r.atRoot with
      | true => cases (turn_of_root_error hr h hv).symm.trans hturn
      | false =>
        obtain rfl : afterFailure r f w = r' :=
          Turn.goesOn.inj ((turn_of_error hr h hv).symm.trans hturn)
        -- The file that cannot be read is its own and only subject.
        have hsubjects : (b.reading host s r.world).subjects b = [.unread s.path f] := by
          simp only [Reading.subjects, reading, hitems]
        have hnext : (b.reading host s r.world).next b = [] := by
          simp only [Reading.next, reading, hitems]
        refine ⟨[⟨.failed f, []⟩], ?_, ?_, rfl, fun seen => ?_⟩
        · rw [hsubjects]
          exact .cons (.unread (failure_of_items hitems)) .nil
        · rw [hnext, todo_afterFailure h, List.nil_append]
        · have hroot : (runWithCalls r seen).atRoot = false := hr
          rw [turn_of_error hroot (htodo seen) (hcalls seen)]
          show Turn.goesOn _ = .goesOn (runWithCalls _ (seen ++ []))
          rw [List.append_nil]
          rfl
    | ok v =>
      obtain ⟨found, settled, hitems, hall, hentries, hnext, hcalls⟩ := visit_of_ok hv
      obtain rfl : afterVisit r v w = r' :=
        Turn.goesOn.inj ((turn_of_ok h hv).symm.trans hturn)
      have hsubjects : (b.reading host s r.world).subjects b
          = (Scan.file b.marker s.scope found).declarations.map .declaration := by
        simp only [Reading.subjects, reading, hitems]
      have hfiles : (b.reading host s r.world).next b = v.next := by
        simp only [Reading.next, reading, hitems, hv, hnext]
      refine ⟨settled, ?_, ?_, ?_, fun seen => ?_⟩
      · rw [hsubjects]
        exact hall
      · rw [hfiles, todo_afterVisit h]
      · rw [← hentries]
        rfl
      · rw [turn_of_ok (htodo seen) (hcalls seen)]
        rfl

/-- A run with any stack that comes to a report has settled what is on the
stack and all below it. The induction is on the turns, and `seen` stands
for what was asked of the host before. -/
theorem exists_settles_takeTurns {b : Build} {host : Host σ} {budget : Nat} {r : Run σ}
    {report : Report} {after : World σ}
    (h : b.takeTurns host budget r = .finished (.ok report) after) (seen : List Call) :
    ∃ settled : List Settlement,
      List.Forall₂ (Settles b) ((b.readings host budget r).flatMap (Reading.subjects b)) settled ∧
      ((b.readings host budget r).map Reading.source).Perm
        (todo r ++ (b.readings host budget r).flatMap (Reading.next b)) ∧
      report.entries = r.entries ++ settled.map Settlement.entry ∧
      b.takeTurns (transcribed host) budget (runWithCalls r seen)
        = .finished (.ok report)
            (withCalls after (seen ++ settled.flatMap Settlement.calls)) := by
  induction budget generalizing r seen with
  | zero => simp [takeTurns] at h
  | succ budget ih =>
    cases htodo : todo r with
    | nil =>
      -- Nothing is left to do, and the run reports.
      have htodo' : todo (runWithCalls r seen) = [] := htodo
      rw [takeTurns, turn_of_todo_eq_nil b host htodo] at h
      cases h
      rw [readings_of_todo_eq_nil htodo, takeTurns, turn_of_todo_eq_nil b _ htodo']
      refine ⟨[], .nil, .nil, (List.append_nil _).symm, ?_⟩
      rw [List.flatMap_nil, List.append_nil]
      rfl
    | cons s rest =>
      cases hturn : b.turn host r with
      | ends result last =>
        obtain ⟨f, rfl⟩ := exists_error_of_ends htodo hturn
        simp [takeTurns, hturn] at h
      | goesOn r' =>
        obtain ⟨settled, hall, htodo', hentries, hcalls⟩ := exists_settles_turn htodo hturn
        rw [takeTurns_succ_of_goesOn hturn] at h
        obtain ⟨more, hallMore, hperm, hentriesMore, hrun⟩ :=
          ih h (seen ++ settled.flatMap Settlement.calls)
        rw [htodo', List.append_assoc] at hperm
        rw [readings_succ_of_goesOn htodo hturn, takeTurns_succ_of_goesOn (hcalls seen)]
        refine ⟨settled ++ more, ?_, ?_, ?_, ?_⟩
        · rw [List.flatMap_cons]
          exact List.rel_append hall hallMore
        · -- What the visit finds comes in front of what was on the stack.
          rw [List.map_cons, List.flatMap_cons]
          exact (hperm.trans (List.perm_append_comm_assoc _ _ _)).cons s
        · rw [hentriesMore, hentries, List.map_append, List.append_assoc]
        · rw [List.flatMap_append, ← List.append_assoc]
          exact hrun

/-! ### What the report adds up to -/

/-- Every entry is in exactly one part of a report. -/
theorem length_parts (report : Report) :
    report.generated.length + report.skipped.length + report.failures.length
      = report.entries.length := by
  obtain ⟨entries⟩ := report
  induction entries with
  | nil => rfl
  | cons e rest ih =>
    simp only [Report.generated, Report.skipped, Report.failures] at ih ⊢
    cases e <;> simp only [List.filterMap_cons, List.length_cons] <;> omega

theorem isSuccess_iff (report : Report) :
    report.isSuccess = true ↔ ∀ f, Report.Entry.failed f ∉ report.entries := by
  have hmem : ∀ f, f ∈ report.failures ↔ Report.Entry.failed f ∈ report.entries := by
    intro f
    simp only [Report.failures, List.mem_filterMap]
    constructor
    · rintro ⟨e, he, hf⟩
      cases e <;> simp_all
    · intro h
      exact ⟨.failed f, h, rfl⟩
  simp only [Report.isSuccess, List.isEmpty_iff, List.eq_nil_iff_forall_not_mem, hmem]

/-- Whether nothing is wrong with the subject itself: it is a declaration that
has a companion or needs none. -/
def Subject.IsFit (b : Build) : Subject → Prop
  | .declaration d => ∃ c?, d.companion? b.style = .ok c?
  | .unread _ _ => False

/-- A subject fails if it is not fit, or if the host has no place for its
companion. -/
theorem Settles.not_failed_iff {b : Build} {x : Subject} {y : Settlement} (h : Settles b x y) :
    (∀ f, y.entry ≠ .failed f) ↔ x.IsFit b ∧ ∀ name text, Call.emit name text none ∉ y.calls := by
  cases h with
  | generated henum hsummary htext =>
    have hcompanion := Declaration.companion?_of_some hsummary b.style
    rw [htext] at hcompanion
    have hfit : Subject.IsFit b (.declaration _) := ⟨_, hcompanion⟩
    simp [hfit]
  | refused henum hsummary htext => simp
  | skipped henum hsummary =>
    have hfit : Subject.IsFit b (.declaration _) :=
      ⟨_, Declaration.companion?_of_none hsummary b.style⟩
    simp [hfit]
  | @unfit d e hdefect =>
    have hcompanion : d.companion? b.style = .error e := by
      obtain hsummary | ⟨s, hsummary, htext⟩ := hdefect
      · exact Declaration.companion?_of_error hsummary b.style
      · rw [Declaration.companion?_of_some hsummary, htext]
        rfl
    simp [Subject.IsFit, hcompanion]
  | unread hfailure => simp [Subject.IsFit]

/-- A run succeeds if all its subjects are fit and the host puts every
companion away. -/
theorem isSuccess_of_settles {b : Build} {xs : List Subject} {settled : List Settlement}
    (h : List.Forall₂ (Settles b) xs settled) :
    Report.isSuccess ⟨settled.map Settlement.entry⟩ = true ↔
      (∀ x ∈ xs, x.IsFit b) ∧
        ∀ name text, Call.emit name text none ∉ settled.flatMap Settlement.calls := by
  rw [isSuccess_iff]
  induction h with
  | nil => simp
  | @cons x y xs settled hxy _ ih =>
    have hhead := hxy.not_failed_iff
    simp only [List.map_cons, List.mem_cons, not_or, forall_and, List.flatMap_cons,
      List.mem_append, forall_eq_or_imp] at ih ⊢
    have hflip : (∀ f, Report.Entry.failed f ≠ y.entry) ↔ ∀ f, y.entry ≠ .failed f :=
      forall_congr' fun _ => ne_comm
    rw [hflip, hhead, ih]
    tauto

theorem failures_cons (e : Report.Entry) (rest : List Report.Entry) :
    Report.failures ⟨e :: rest⟩ = Report.failures ⟨[e]⟩ ++ Report.failures ⟨rest⟩ :=
  List.filterMap_append (l := [e])

/-- What settles a subject has a message exactly if the host could not put the
companion away. -/
theorem Settles.messages {b : Build} {x : Subject} {y : Settlement} (h : Settles b x y) :
    y.calls.filterMap Call.message?
      = List.replicate
          ((Report.failures ⟨[y.entry]⟩).countP Failure.isEmission) emissionFailure := by
  cases h with
  | unread hfailure => obtain rfl | rfl := hfailure <;> rfl
  | _ => rfl

/-- The host is told of every companion that it could not put away, and of
nothing else. -/
theorem messages_of_settles {b : Build} {xs : List Subject} {settled : List Settlement}
    (h : List.Forall₂ (Settles b) xs settled) :
    (settled.flatMap Settlement.calls).filterMap Call.message?
      = List.replicate
          ((Report.failures ⟨settled.map Settlement.entry⟩).countP Failure.isEmission)
          emissionFailure := by
  induction h with
  | nil => rfl
  | @cons x y _ rest hxy _ ih =>
    rw [List.flatMap_cons, List.filterMap_append, hxy.messages, ih, List.map_cons,
      failures_cons y.entry (rest.map Settlement.entry), List.countP_append, List.replicate_add]

/-! ### The books of a run -/

/-- What the visits of a run, its report and the requests to its host have to
do with each other. -/
structure Accounts (b : Build) (visits : List Reading) (report : Report) (calls : List Call) :
    Prop where
  /-- The root is visited, and for each visit once what it leads to: the
  modules that have a file. -/
  visited : (visits.map Reading.source).Perm (b.start :: visits.flatMap (Reading.next b))
  /-- Every subject has one entry and its own requests, in the order of the
  visits, and there are no others. -/
  settled : ∃ settled : List Settlement,
    List.Forall₂ (Settles b) (visits.flatMap (Reading.subjects b)) settled ∧
      report.entries = settled.map Settlement.entry ∧ calls = settled.flatMap Settlement.calls
  /-- No subject is in two parts of the report, and none is lost. -/
  counted :
    report.generated.length + report.skipped.length + report.failures.length
      = (visits.flatMap (Reading.subjects b)).length
  /-- The host is told once of each companion that it could not put away. -/
  told : calls.filterMap Call.message?
    = List.replicate (report.failures.countP Failure.isEmission) emissionFailure
  /-- Success is that no file, no declaration and no companion failed. -/
  success : report.isSuccess = true ↔
    (∀ x ∈ visits.flatMap (Reading.subjects b), x.IsFit b) ∧
      ∀ name text, Call.emit name text none ∉ calls

theorem accounts_of_settles {b : Build} {visits : List Reading} {report : Report}
    {settled : List Settlement}
    (hvisited : (visits.map Reading.source).Perm (b.start :: visits.flatMap (Reading.next b)))
    (hsettled : List.Forall₂ (Settles b) (visits.flatMap (Reading.subjects b)) settled)
    (hentries : report.entries = settled.map Settlement.entry) :
    Accounts b visits report (settled.flatMap Settlement.calls) := by
  obtain ⟨entries⟩ := report
  obtain rfl : entries = settled.map Settlement.entry := hentries
  refine ⟨hvisited, ⟨settled, hsettled, rfl, rfl⟩, ?_, messages_of_settles hsettled,
    isSuccess_of_settles hsettled⟩
  rw [length_parts, hsettled.length_eq, List.length_map]

/-- The first turn of a run fails exactly if the root cannot be read. -/
theorem runWith_of_unread {b : Build} (host : Host σ) (budget : Nat) (w : World σ) {f : Failure}
    (h : items w.tree b.root = .error f) :
    b.runWith host (budget + 1) w = .finished (.error f) (b.announce b.root w) := by
  cases hv : b.visit host b.start w with
  | mk outcome after =>
    cases outcome with
    | error f' =>
      obtain ⟨hitems, rfl, -⟩ := visit_of_error hv
      obtain rfl : f = f' := Except.error.inj (h.symm.trans hitems)
      rw [runWith, takeTurns, turn_of_root_error rfl (todo_begin b w) hv]
      rfl
    | ok v =>
      obtain ⟨found, _, hitems, _⟩ := visit_of_ok hv
      cases h.symm.trans hitems

/-- Below the root, no failure ends a run. -/
theorem takeTurns_ne_error {b : Build} {host : Host σ} {budget : Nat} {r : Run σ}
    (hr : r.atRoot = false) (f : Failure) (after : World σ) :
    b.takeTurns host budget r ≠ .finished (.error f) after := by
  intro h
  obtain ⟨_, _, _, _, hresult, _⟩ := walkAll_of_takeTurns hr h
  cases hresult

theorem not_error_of_read {b : Build} (host : Host σ) (budget : Nat) {w : World σ}
    {found : List Item} (h : items w.tree b.root = .ok found) (f : Failure) (after : World σ) :
    b.runWith host (budget + 1) w ≠ .finished (.error f) after := by
  cases hv : b.visit host b.start w with
  | mk outcome seen =>
    cases outcome with
    | error f' =>
      obtain ⟨hitems, -, -⟩ := visit_of_error hv
      cases h.symm.trans hitems
    | ok v =>
      rw [runWith, takeTurns_succ_of_goesOn (turn_of_ok (todo_begin b w) hv)]
      exact takeTurns_ne_error rfl f after

/-- A run fails exactly if its root cannot be read, and then nothing is asked
of the host. The report of any other run that ends is accounted for by its
visits, and so is everything that is asked of the host. -/
theorem runWith_accounts (b : Build) (host : Host σ) (budget : Nat) (w : World σ) :
    ((∃ f after, b.runWith host (budget + 1) w = .finished (.error f) after) ↔
        ∃ f, items w.tree b.root = .error f) ∧
      match b.runWith host (budget + 1) w with
      | .finished (.error f) after =>
        items w.tree b.root = .error f ∧ after = b.announce b.root w ∧
          b.runWith (transcribed host) (budget + 1) (withCalls w [])
            = .finished (.error f) (withCalls after [])
      | .finished (.ok report) after =>
        ∃ calls,
          b.runWith (transcribed host) (budget + 1) (withCalls w [])
              = .finished (.ok report) (withCalls after calls) ∧
            Accounts b (b.readings host (budget + 1) (b.begin w)) report calls
      | .exhausted => True := by
  cases hitems : items w.tree b.root with
  | error f =>
    have hrun := runWith_of_unread host budget w hitems
    have hrun' := runWith_of_unread (transcribed host) budget (withCalls w []) hitems
    rw [withCalls_announce] at hrun'
    rw [hrun]
    exact ⟨⟨fun _ => ⟨f, rfl⟩, fun _ => ⟨f, _, rfl⟩⟩, rfl, rfl, hrun'⟩
  | ok found =>
    have hne := not_error_of_read host budget hitems
    refine ⟨⟨?_, ?_⟩, ?_⟩
    · rintro ⟨f, after, h⟩
      exact absurd h (hne f after)
    · rintro ⟨f, h⟩
      cases h
    · cases hrun : b.runWith host (budget + 1) w with
      | exhausted => trivial
      | finished result after =>
        cases result with
        | error f => exact absurd hrun (hne f after)
        | ok report =>
          obtain ⟨settled, hsettled, hvisited, hentries, hrun'⟩ :=
            exists_settles_takeTurns hrun []
          exact ⟨settled.flatMap Settlement.calls, hrun',
            accounts_of_settles hvisited hsettled hentries⟩

end EnumCompanion.Build
