import EnumCompanion.Build

/-!
# `EnumCompanion.Proofs.Build.Preorder`: a run walks the modules in preorder

A run keeps one stack for all that it has still to visit. This module
gives the walk that the stack stands for, a plain recursion: visit a
file, then walk from each of the files it leads to, one after the other,
each with all that lies below it.

* `preorder`: the whole walk from the root, down to a given depth. It
  gives what the walk shows to the outside as a list of `Stop`s, beside
  its result and the world it leaves.
* `stops`: what a run shows, turn by turn.
* `walkAll_of_takeTurns` and `exists_leads_walk`: a run with any stack
  does what the recursion does with the stack read from its top, in both
  directions.
* `takeTurns_watched`: a host that keeps a list of what it is given ends up
  with the texts that the stops name, and the run is the same otherwise.
* `runWith_finished_iff_preorder`: a run ends, showing some stops, with
  some result and world, exactly when the recursion does, with the same
  stops, result and world; and the stops name all that the host is given.
-/

set_option autoImplicit false

namespace EnumCompanion.Build

variable {σ : Type}

/-! ### What a visit shows -/

/-- The name and text of a companion that the host is given for a
declaration. -/
def given? (b : Build) (d : Declaration) : Option (String × String) :=
  match d.companion? b.style with
  | .ok (some c) => some (c.qualifiedName, c.text)
  | _ => none

/-- What a visit shows to the outside. -/
structure Stop where
  /-- The file that is read, with the path of its module. -/
  source : Source
  /-- The names and texts that the host is given, in order. -/
  given : List (String × String)
  deriving DecidableEq, Repr

/-- What the visit of a file in a world shows. -/
def stop (b : Build) (s : Source) (w : World σ) : Stop where
  source := s
  given :=
    match items w.tree s.path with
    | .error _ => []
    | .ok items => (Scan.file b.marker s.scope items).declarations.filterMap b.given?

/-- What the turns of a run show, in at most the given number of them. -/
def stops (b : Build) (host : Host σ) : Nat → Run σ → List Stop
  | 0, _ => []
  | budget + 1, r =>
    match r.pending.back? with
    | none => []
    | some s =>
      b.stop s r.world ::
        match b.turn host r with
        | .ends _ _ => []
        | .goesOn r => b.stops host budget r

/-! ### The recursive walk -/

/-- What a walk gives: what it shows, its entries, and the world after
it. -/
structure Walk (σ : Type) where
  stops : List Stop
  entries : List Report.Entry
  world : World σ

/-- Walks from each of some files in turn. -/
def inTurn (walk : Source → World σ → Option (Walk σ)) : List Source → World σ → Option (Walk σ)
  | [], w => some ⟨[], [], w⟩
  | s :: rest, w => do
    let first ← walk s w
    let others ← inTurn walk rest first.world
    return ⟨first.stops ++ others.stops, first.entries ++ others.entries, others.world⟩

/-- Walks from a file: visits it, and then walks from all that it leads
to, at most the given number of files deep. -/
def walk (b : Build) (host : Host σ) : Nat → Source → World σ → Option (Walk σ)
  | 0, _, _ => none
  | depth + 1, s, w =>
    match b.visit host s w with
    | (.error f, after) => some ⟨[b.stop s w], [.failed f], after.note .warn f.message⟩
    | (.ok v, after) => do
      let below ← inTurn (b.walk host depth) v.next after
      return ⟨b.stop s w :: below.stops, v.entries ++ below.entries, below.world⟩

/-- Walks from each of some files in turn, at most the given number of
files deep. -/
def walkAll (b : Build) (host : Host σ) (depth : Nat) : List Source → World σ → Option (Walk σ) :=
  inTurn (b.walk host depth)

/-- How a recursive run ends: what it shows, its result, and the world
after it. -/
structure Ending (σ : Type) where
  stops : List Stop
  result : Except Failure Report
  world : World σ

/-- Walks from the root and reports. A root that cannot be read is the
result of the run. -/
def preorder (b : Build) (host : Host σ) (depth : Nat) (w : World σ) : Option (Ending σ) :=
  match b.visit host b.start w with
  | (.error f, after) => some ⟨[b.stop b.start w], .error f, after⟩
  | (.ok _, _) => do
    let all ← b.walk host depth b.start w
    let report : Report := ⟨all.entries⟩
    return ⟨all.stops, .ok report, all.world.note .info report.message⟩

/-! ### Walks in turn -/

/-- What one walk gives, and what another gives after it. -/
def Walk.append (first others : Walk σ) : Walk σ :=
  ⟨first.stops ++ others.stops, first.entries ++ others.entries, others.world⟩

theorem Walk.append_assoc (first middle others : Walk σ) :
    (first.append middle).append others = first.append (middle.append others) := by
  simp only [Walk.append, List.append_assoc]

theorem inTurn_cons (walk : Source → World σ → Option (Walk σ)) (s : Source) (rest : List Source)
    (w : World σ) :
    inTurn walk (s :: rest) w
      = (walk s w).bind fun first => (inTurn walk rest first.world).map first.append := by
  cases h : walk s w with
  | none => simp [inTurn, h]
  | some first =>
    cases h' : inTurn walk rest first.world with
    | none => simp [inTurn, h, h']
    | some others => simp [inTurn, h, h', Walk.append]

/-- Walking from two lists of files is walking from one and then from the
other. -/
theorem inTurn_append (walk : Source → World σ → Option (Walk σ)) (ss rest : List Source)
    (w : World σ) :
    inTurn walk (ss ++ rest) w
      = (inTurn walk ss w).bind fun first => (inTurn walk rest first.world).map first.append := by
  induction ss generalizing w with
  | nil =>
    cases h : inTurn walk rest w with
    | none => simp [inTurn, h]
    | some others => simp [inTurn, h, Walk.append]
  | cons s ss ih =>
    rw [List.cons_append, inTurn_cons, inTurn_cons]
    cases walk s w with
    | none => rfl
    | some first =>
      rw [Option.bind_some, Option.bind_some, ih]
      cases inTurn walk ss first.world with
      | none => rfl
      | some middle =>
        cases h : inTurn walk rest middle.world with
        | none => simp [Walk.append, h]
        | some others => simp [Walk.append, h, List.append_assoc]

/-- A walk that gives something gives the same from each of some files
when the walks from single files do. -/
theorem inTurn_mono {walk deeper : Source → World σ → Option (Walk σ)}
    (hwalk : ∀ s w all, walk s w = some all → deeper s w = some all) {ss : List Source}
    {w : World σ} {all : Walk σ} (h : inTurn walk ss w = some all) :
    inTurn deeper ss w = some all := by
  induction ss generalizing w all with
  | nil => exact h
  | cons s ss ih =>
    rw [inTurn_cons] at h ⊢
    obtain ⟨first, hfirst, h⟩ := Option.bind_eq_some_iff.mp h
    obtain ⟨others, hothers, rfl⟩ := Option.map_eq_some_iff.mp h
    rw [hwalk s w first hfirst, Option.bind_some, ih hothers, Option.map_some]

theorem walk_succ_of_error {b : Build} {host : Host σ} {s : Source} {w after : World σ}
    {f : Failure} (h : b.visit host s w = (.error f, after)) (depth : Nat) :
    b.walk host (depth + 1) s w
      = some ⟨[b.stop s w], [.failed f], after.note .warn f.message⟩ := by
  simp [walk, h]

theorem walk_succ_of_ok {b : Build} {host : Host σ} {s : Source} {w after : World σ}
    {v : Visit} (h : b.visit host s w = (.ok v, after)) (depth : Nat) :
    b.walk host (depth + 1) s w
      = (b.walkAll host depth v.next after).map
          (Walk.append ⟨[b.stop s w], v.entries, after⟩) := by
  cases hbelow : inTurn (b.walk host depth) v.next after with
  | none => simp [walk, h, walkAll, hbelow]
  | some below => simp [walk, h, walkAll, hbelow, Walk.append]

/-- A walk that is deep enough gives the same one file deeper. -/
theorem walk_succ {b : Build} {host : Host σ} {depth : Nat} {s : Source} {w : World σ}
    {all : Walk σ} (h : b.walk host depth s w = some all) :
    b.walk host (depth + 1) s w = some all := by
  induction depth generalizing s w all with
  | zero => simp [walk] at h
  | succ depth ih =>
    cases hv : b.visit host s w with
    | mk result after =>
      cases result with
      | error f =>
        rw [walk_succ_of_error hv] at h ⊢
        exact h
      | ok v =>
        rw [walk_succ_of_ok hv] at h ⊢
        obtain ⟨below, hbelow, rfl⟩ := Option.map_eq_some_iff.mp h
        have hdeeper : b.walkAll host (depth + 1) v.next after = some below :=
          inTurn_mono (fun _ _ _ => ih) hbelow
        rw [hdeeper, Option.map_some]

theorem walkAll_succ {b : Build} {host : Host σ} {depth : Nat} {ss : List Source} {w : World σ}
    {all : Walk σ} (h : b.walkAll host depth ss w = some all) :
    b.walkAll host (depth + 1) ss w = some all :=
  inTurn_mono (fun _ _ _ => walk_succ) h

/-- Walking from a file that cannot be read, and then from others. -/
theorem walkAll_cons_of_error {b : Build} {host : Host σ} {depth : Nat} {s : Source}
    {rest : List Source} {w after : World σ} {f : Failure} {all : Walk σ}
    (hv : b.visit host s w = (.error f, after))
    (hall : b.walkAll host depth rest (after.note .warn f.message) = some all) :
    b.walkAll host (depth + 1) (s :: rest) w
      = some (Walk.append ⟨[b.stop s w], [.failed f], after.note .warn f.message⟩ all) := by
  rw [walkAll, inTurn_cons, walk_succ_of_error hv, Option.bind_some]
  exact congrArg _ (walkAll_succ hall)

/-- Walking from a file and then from others is visiting it, and then
walking from the files that the visit leads to and from the others. -/
theorem walkAll_cons_of_ok {b : Build} {host : Host σ} {depth : Nat} {s : Source}
    {rest : List Source} {w after : World σ} {v : Visit} {all : Walk σ}
    (hv : b.visit host s w = (.ok v, after))
    (hall : b.walkAll host depth (v.next ++ rest) after = some all) :
    b.walkAll host (depth + 1) (s :: rest) w
      = some (Walk.append ⟨[b.stop s w], v.entries, after⟩ all) := by
  rw [walkAll, inTurn_append] at hall
  obtain ⟨below, hbelow, hall⟩ := Option.bind_eq_some_iff.mp hall
  obtain ⟨others, hothers, rfl⟩ := Option.map_eq_some_iff.mp hall
  have hs : b.walk host (depth + 1) s w
      = some (Walk.append ⟨[b.stop s w], v.entries, after⟩ below) := by
    rw [walk_succ_of_ok hv]
    exact congrArg _ hbelow
  -- The others are walked from at the same depth as the file, not one file less deep.
  have hdeeper : inTurn (b.walk host (depth + 1)) rest below.world = some others :=
    walkAll_succ hothers
  rw [walkAll, inTurn_cons, hs, Option.bind_some, ← Walk.append_assoc]
  exact congrArg (Option.map _) hdeeper

/-! ### Turns of a run -/

/-- The files that a run has to visit, from the top of its stack. -/
def todo (r : Run σ) : List Source :=
  r.pending.toList.reverse

/-- Files that are put on a stack are on top of it, in order. -/
theorem reverse_stack (pending : Array Source) (next : List Source) :
    (stack pending next).toList.reverse = next ++ pending.toList.reverse := by
  have hpush : ∀ (ss : List Source) (a : Array Source),
      (ss.foldl Array.push a).toList = a.toList ++ ss := by
    intro ss
    induction ss with
    | nil => intro a; simp
    | cons s ss ih => intro a; rw [List.foldl_cons, ih]; simp
  rw [stack, hpush, List.reverse_append, List.reverse_reverse]

theorem back?_eq_head?_todo (r : Run σ) : r.pending.back? = (todo r).head? := by
  rw [todo, List.head?_reverse, Array.getLast?_toList]

theorem reverse_pop (pending : Array Source) :
    pending.pop.toList.reverse = pending.toList.reverse.tail := by
  rw [Array.toList_pop, List.tail_reverse]

/-- A run with an empty stack ends and reports. -/
theorem turn_of_todo_eq_nil (b : Build) (host : Host σ) {r : Run σ} (h : todo r = []) :
    b.turn host r
      = .ends (.ok ⟨r.entries⟩) (r.world.note .info (Report.message ⟨r.entries⟩)) := by
  have hback : r.pending.back? = none := by rw [back?_eq_head?_todo, h]; rfl
  simp only [turn, hback]

/-- The run after a visit below the root that failed. -/
def afterFailure (r : Run σ) (f : Failure) (after : World σ) : Run σ :=
  ⟨r.pending.pop, false, r.entries ++ [.failed f], after.note .warn f.message⟩

/-- The run after a visit. -/
def afterVisit (r : Run σ) (v : Visit) (after : World σ) : Run σ :=
  ⟨stack r.pending.pop v.next, false, r.entries ++ v.entries, after⟩

theorem todo_afterFailure {r : Run σ} {s : Source} {rest : List Source} (h : todo r = s :: rest)
    (f : Failure) (after : World σ) : todo (afterFailure r f after) = rest := by
  rw [todo, afterFailure, reverse_pop, ← todo, h, List.tail_cons]

theorem todo_afterVisit {r : Run σ} {s : Source} {rest : List Source} (h : todo r = s :: rest)
    (v : Visit) (after : World σ) : todo (afterVisit r v after) = v.next ++ rest := by
  rw [todo, afterVisit, reverse_stack, reverse_pop, ← todo, h, List.tail_cons]

theorem turn_of_error {b : Build} {host : Host σ} {r : Run σ} {s : Source} {rest : List Source}
    {f : Failure} {after : World σ} (hr : r.atRoot = false) (h : todo r = s :: rest)
    (hv : b.visit host s r.world = (.error f, after)) :
    b.turn host r = .goesOn (afterFailure r f after) := by
  have hback : r.pending.back? = some s := by rw [back?_eq_head?_todo, h]; rfl
  simp [turn, hback, hv, hr, afterFailure]

theorem turn_of_ok {b : Build} {host : Host σ} {r : Run σ} {s : Source} {rest : List Source}
    {v : Visit} {after : World σ} (h : todo r = s :: rest)
    (hv : b.visit host s r.world = (.ok v, after)) :
    b.turn host r = .goesOn (afterVisit r v after) := by
  have hback : r.pending.back? = some s := by rw [back?_eq_head?_todo, h]; rfl
  simp [turn, hback, hv, afterVisit]

/-- What a run shows goes on with what the next turns show. -/
theorem stops_succ_of_goesOn {b : Build} {host : Host σ} {r r' : Run σ} {s : Source}
    {rest : List Source} (h : todo r = s :: rest) (hturn : b.turn host r = .goesOn r')
    (budget : Nat) :
    b.stops host (budget + 1) r = b.stop s r.world :: b.stops host budget r' := by
  have hback : r.pending.back? = some s := by rw [back?_eq_head?_todo, h]; rfl
  simp [stops, hback, hturn]

theorem takeTurns_succ_of_goesOn {b : Build} {host : Host σ} {r r' : Run σ}
    (hturn : b.turn host r = .goesOn r') (budget : Nat) :
    b.takeTurns host (budget + 1) r = b.takeTurns host budget r' := by
  simp [takeTurns, hturn]

/-! ### From the run to the recursion -/

/-- Below the root, what a run with any stack does until it ends is what the
recursion does with the files on the stack. The induction is on the turns. -/
theorem walkAll_of_takeTurns {b : Build} {host : Host σ} {budget : Nat} {r : Run σ}
    {result : Except Failure Report} {after : World σ} (hr : r.atRoot = false)
    (h : b.takeTurns host budget r = .finished result after) :
    ∃ depth all, b.walkAll host depth (todo r) r.world = some all ∧
      b.stops host budget r = all.stops ∧ result = .ok ⟨r.entries ++ all.entries⟩ ∧
      after = all.world.note .info (Report.message ⟨r.entries ++ all.entries⟩) := by
  induction budget generalizing r with
  | zero => simp [takeTurns] at h
  | succ budget ih =>
    cases htodo : todo r with
    | nil =>
      -- Nothing is left to do, and the run reports.
      have hback : r.pending.back? = none := by rw [back?_eq_head?_todo, htodo]; rfl
      rw [takeTurns, turn_of_todo_eq_nil b host htodo] at h
      cases h
      exact ⟨0, ⟨[], [], r.world⟩, rfl, by simp [stops, hback], by simp, by simp⟩
    | cons s rest =>
      cases hv : b.visit host s r.world with
      | mk outcome seen =>
        cases outcome with
        | error f =>
          -- A file below the root that cannot be read is noted, and the run goes on.
          have hturn := turn_of_error hr htodo hv
          rw [takeTurns_succ_of_goesOn hturn] at h
          obtain ⟨depth, all, hall, hstops, hresult, hafter⟩ := ih rfl h
          rw [todo_afterFailure htodo] at hall
          refine ⟨depth + 1, _, walkAll_cons_of_error hv hall, ?_, ?_, ?_⟩
          · rw [stops_succ_of_goesOn htodo hturn, hstops]
            rfl
          · rw [hresult]
            simp [afterFailure, Walk.append]
          · rw [hafter]
            simp [afterFailure, Walk.append]
        | ok v =>
          -- The files that the visit leads to are on top of those that were there.
          have hturn := turn_of_ok htodo hv
          rw [takeTurns_succ_of_goesOn hturn] at h
          obtain ⟨depth, all, hall, hstops, hresult, hafter⟩ := ih rfl h
          rw [todo_afterVisit htodo] at hall
          refine ⟨depth + 1, _, walkAll_cons_of_ok hv hall, ?_, ?_, ?_⟩
          · rw [stops_succ_of_goesOn htodo hturn, hstops]
            rfl
          · rw [hresult]
            simp [afterVisit, Walk.append]
          · rw [hafter]
            simp [afterVisit, Walk.append]

/-! ### From the recursion to the run -/

/-- A run comes to another in the given number of turns, in which it shows
the given stops. -/
def Leads (b : Build) (host : Host σ) (turns : Nat) (shown : List Stop) (r r' : Run σ) : Prop :=
  ∀ budget, b.takeTurns host (budget + turns) r = b.takeTurns host budget r' ∧
    b.stops host (budget + turns) r = shown ++ b.stops host budget r'

theorem Leads.refl (b : Build) (host : Host σ) (r : Run σ) : Leads b host 0 [] r r :=
  fun _ => ⟨rfl, rfl⟩

theorem Leads.trans {b : Build} {host : Host σ} {m n : Nat} {shown more : List Stop}
    {r r' r'' : Run σ} (h : Leads b host m shown r r') (h' : Leads b host n more r' r'') :
    Leads b host (n + m) (shown ++ more) r r'' := by
  intro budget
  obtain ⟨hturns, hstops⟩ := h (budget + n)
  obtain ⟨hturns', hstops'⟩ := h' budget
  rw [← Nat.add_assoc]
  exact ⟨hturns.trans hturns', by rw [hstops, hstops', List.append_assoc]⟩

theorem Leads.turn {b : Build} {host : Host σ} {r r' : Run σ} {s : Source} {rest : List Source}
    (h : todo r = s :: rest) (hturn : b.turn host r = .goesOn r') :
    Leads b host 1 [b.stop s r.world] r r' :=
  fun budget => ⟨takeTurns_succ_of_goesOn hturn budget, stops_succ_of_goesOn h hturn budget⟩

/-- The runs that have done a walk more than `r`, with `rest` still to do. -/
structure Done (r : Run σ) (all : Walk σ) (rest : List Source) (r' : Run σ) : Prop where
  todo_eq : todo r' = rest
  atRoot : r'.atRoot = false
  entries : r'.entries = r.entries ++ all.entries
  world : r'.world = all.world

/-- The walk from each of some files can be done by a run that has them on
top of its stack, when the walk from each single one can. -/
theorem exists_leads_inTurn {b : Build} {host : Host σ} {walk : Source → World σ → Option (Walk σ)}
    (hwalk : ∀ {s w all}, walk s w = some all → ∀ {r : Run σ} {rest}, r.atRoot = false →
      todo r = s :: rest → r.world = w →
        ∃ turns r', Leads b host turns all.stops r r' ∧ Done r all rest r')
    {ss : List Source} {w : World σ} {all : Walk σ} (h : inTurn walk ss w = some all) {r : Run σ}
    {rest : List Source} (hr : r.atRoot = false) (htodo : todo r = ss ++ rest)
    (hw : r.world = w) :
    ∃ turns r', Leads b host turns all.stops r r' ∧ Done r all rest r' := by
  induction ss generalizing w all r with
  | nil =>
    cases h
    exact ⟨0, r, Leads.refl b host r, ⟨htodo, hr, by simp, hw⟩⟩
  | cons s ss ih =>
    rw [inTurn_cons] at h
    obtain ⟨first, hfirst, h⟩ := Option.bind_eq_some_iff.mp h
    obtain ⟨others, hothers, rfl⟩ := Option.map_eq_some_iff.mp h
    -- The run that has done the first walk stands where the others begin.
    obtain ⟨m, r₁, hlead₁, hdone₁⟩ := hwalk hfirst hr htodo hw
    obtain ⟨n, r₂, hlead₂, hdone₂⟩ := ih hothers hdone₁.atRoot hdone₁.todo_eq hdone₁.world
    refine ⟨n + m, r₂, hlead₁.trans hlead₂, ⟨hdone₂.todo_eq, hdone₂.atRoot, ?_, hdone₂.world⟩⟩
    rw [hdone₂.entries, hdone₁.entries, List.append_assoc]
    rfl

/-- The walk from a file can be done by a run that has the file on top of
its stack. The induction is on the depth of the walk. -/
theorem exists_leads_walk {b : Build} {host : Host σ} {depth : Nat} {s : Source} {w : World σ}
    {all : Walk σ} (h : b.walk host depth s w = some all) {r : Run σ} {rest : List Source}
    (hr : r.atRoot = false) (htodo : todo r = s :: rest) (hw : r.world = w) :
    ∃ turns r', Leads b host turns all.stops r r' ∧ Done r all rest r' := by
  induction depth generalizing s w all r rest with
  | zero => simp [walk] at h
  | succ depth ih =>
    subst hw
    cases hv : b.visit host s r.world with
    | mk outcome seen =>
      cases outcome with
      | error f =>
        rw [walk_succ_of_error hv] at h
        cases h
        refine ⟨1, afterFailure r f seen, Leads.turn htodo (turn_of_error hr htodo hv), ?_⟩
        exact ⟨todo_afterFailure htodo f seen, rfl, rfl, rfl⟩
      | ok v =>
        -- One turn for the file itself, and those for what its visit has put on the stack.
        rw [walk_succ_of_ok hv] at h
        obtain ⟨below, hbelow, rfl⟩ := Option.map_eq_some_iff.mp h
        obtain ⟨turns, r', hlead, hdone⟩ :=
          exists_leads_inTurn ih hbelow rfl (todo_afterVisit htodo v seen) rfl
        refine ⟨turns + 1, r', (Leads.turn htodo (turn_of_ok htodo hv)).trans hlead, ?_⟩
        refine ⟨hdone.todo_eq, hdone.atRoot, ?_, hdone.world⟩
        rw [hdone.entries, afterVisit, List.append_assoc]
        rfl

/-! ### What the host is given -/

/-- The world with another state of the host. -/
def withState {τ : Type} (w : World σ) (state : τ) : World τ :=
  ⟨w.tree, w.console, w.log, state⟩

/-- The world with a list of what the host has been given beside the state
of the host. -/
def withGiven (w : World σ) (seen : List (String × String)) :
    World (σ × List (String × String)) :=
  withState w (w.state, seen)

/-- The host that keeps a list of all that it is given beside the state of
another host. -/
def watched (host : Host σ) : Host (σ × List (String × String)) where
  emit name text w :=
    let (path, after) := host.emit name text (withState w w.state.1)
    (path, withGiven after (w.state.2 ++ [(name, text)]))
  report message w :=
    let after := host.report message (withState w w.state.1)
    withGiven after w.state.2

/-- The outcome of a run with another world. -/
def mapWorld {τ : Type} (f : World σ → World τ) : Outcome σ → Outcome τ
  | .finished result w => .finished result (f w)
  | .exhausted => .exhausted

theorem emit_watched (host : Host σ) (c : Companion) (w : World σ)
    (seen : List (String × String)) :
    emit (watched host) c (withGiven w seen)
      = ((emit host c w).1,
          withGiven (emit host c w).2 (seen ++ [(c.qualifiedName, c.text)])) := by
  have hgiven : (watched host).emit c.qualifiedName c.text (withGiven w seen)
      = ((host.emit c.qualifiedName c.text w).1,
          withGiven (host.emit c.qualifiedName c.text w).2
            (seen ++ [(c.qualifiedName, c.text)])) := rfl
  rw [emit, emit, hgiven]
  rcases host.emit c.qualifiedName c.text w with ⟨_ | path, after⟩ <;> rfl

/-- Watching a host changes nothing in what is done with a declaration, and
shows what the host is given for it. -/
theorem handle_watched (b : Build) (host : Host σ) (d : Declaration) (w : World σ)
    (seen : List (String × String)) :
    b.handle (watched host) d (withGiven w seen)
      = ((b.handle host d w).1,
          withGiven (b.handle host d w).2 (seen ++ (b.given? d).toList)) := by
  unfold handle given?
  cases d.companion? b.style with
  | error e => simp [withGiven, withState, World.note]
  | ok c? =>
    cases c? with
    | none => simp [withGiven, withState, World.note]
    | some c =>
      exact emit_watched host c
        (w.note .debug ("Generated " ++ c.summary.companionName ++ " for " ++ d.place)) seen

theorem handleAll_watched (b : Build) (host : Host σ) (ds : List Declaration) (w : World σ)
    (seen : List (String × String)) :
    b.handleAll (watched host) ds (withGiven w seen)
      = ((b.handleAll host ds w).1,
          withGiven (b.handleAll host ds w).2 (seen ++ ds.filterMap b.given?)) := by
  induction ds generalizing w seen with
  | nil => simp [handleAll]
  | cons d rest ih =>
    simp only [handleAll, handle_watched, ih]
    cases hd : b.given? d <;> simp [hd]

theorem foldl_noteUnlocated_withState {τ : Type} (ms : List ModuleFile) (w : World σ) (state : τ) :
    ms.foldl noteUnlocated (withState w state)
      = withState (ms.foldl noteUnlocated w) state := by
  induction ms generalizing w with
  | nil => rfl
  | cons m ms ih => exact ih (noteUnlocated w m)

theorem state_foldl_noteUnlocated (ms : List ModuleFile) (w : World σ) :
    (ms.foldl noteUnlocated w).state = w.state := by
  induction ms generalizing w with
  | nil => rfl
  | cons m ms ih => exact ih (noteUnlocated w m)

theorem withGiven_foldl_noteUnlocated (ms : List ModuleFile) (w : World σ)
    (seen : List (String × String)) :
    ms.foldl noteUnlocated (withGiven w seen) = withGiven (ms.foldl noteUnlocated w) seen := by
  rw [withGiven, foldl_noteUnlocated_withState, withGiven, state_foldl_noteUnlocated]

theorem tree_announce (b : Build) (path : FilePath) (w : World σ) :
    (b.announce path w).tree = w.tree := by
  unfold announce
  split <;> rfl

/-- Watching a host changes nothing in a visit, and shows that the host is
given what the stop says. -/
theorem visit_watched (b : Build) (host : Host σ) (s : Source) (w : World σ)
    (seen : List (String × String)) :
    b.visit (watched host) s (withGiven w seen)
      = ((b.visit host s w).1,
          withGiven (b.visit host s w).2 (seen ++ (b.stop s w).given)) := by
  have hannounce : b.announce s.path (withGiven w seen) = withGiven (b.announce s.path w) seen := by
    unfold announce
    split <;> rfl
  have htree : (withGiven (b.announce s.path w) seen).tree = w.tree := tree_announce b s.path w
  unfold visit stop
  rw [hannounce]
  simp only [htree, tree_announce]
  cases items w.tree s.path with
  | error f => simp
  | ok items =>
    simp only [handleAll_watched, findFiles, withGiven_foldl_noteUnlocated]
    rfl

/-- Watching a host changes nothing in the turns of a run, and shows that the
host is given what their stops say. The induction is on the turns. -/
theorem takeTurns_watched (b : Build) (host : Host σ) (budget : Nat) (r : Run σ)
    (seen : List (String × String)) :
    b.takeTurns (watched host) budget ⟨r.pending, r.atRoot, r.entries, withGiven r.world seen⟩
      = mapWorld
          (fun after => withGiven after (seen ++ (b.stops host budget r).flatMap Stop.given))
          (b.takeTurns host budget r) := by
  induction budget generalizing r seen with
  | zero => rfl
  | succ budget ih =>
    cases hback : r.pending.back? with
    | none => simp [takeTurns, turn, stops, hback, mapWorld, withGiven, withState, World.note]
    | some s =>
      have hseen := visit_watched b host s r.world seen
      cases hv : b.visit host s r.world with
      | mk outcome after =>
        rw [hv] at hseen
        cases outcome with
        | ok v =>
          simp only [takeTurns, turn, stops, hback, hseen, hv, List.flatMap_cons,
            ← List.append_assoc]
          exact ih ⟨stack r.pending.pop v.next, false, r.entries ++ v.entries, after⟩ _
        | error f =>
          cases hroot : r.atRoot with
          | true =>
            -- The run ends with this turn.
            simp [takeTurns, turn, stops, hback, hseen, hv, hroot, mapWorld]
          | false =>
            simp only [takeTurns, turn, stops, hback, hseen, hv, hroot, List.flatMap_cons,
              ← List.append_assoc]
            exact ih (afterFailure r f after) _

/-! ### Whole runs -/

theorem todo_begin (b : Build) (w : World σ) : todo (b.begin w) = [b.start] := rfl

/-- If the root cannot be read, both ways end at once, given a turn at all. -/
theorem runWith_iff_preorder_of_error {b : Build} {host : Host σ} {w after : World σ} {f : Failure}
    (hv : b.visit host b.start w = (.error f, after)) (shown : List Stop)
    (result : Except Failure Report) (final : World σ) :
    (∃ budget, b.runWith host budget w = .finished result final ∧
        b.stops host budget (b.begin w) = shown)
      ↔ ∃ depth, b.preorder host depth w = some ⟨shown, result, final⟩ := by
  have hturn : b.turn host (b.begin w) = .ends (.error f) after := by
    simp [turn, begin, hv]
  have hstops : ∀ n, b.stops host (n + 1) (b.begin w) = [b.stop b.start w] := by
    intro n
    simp [stops, begin, turn, hv]
  constructor
  · rintro ⟨budget, hrun, rfl⟩
    cases budget with
    | zero => simp [runWith, takeTurns] at hrun
    | succ n =>
      simp only [runWith, takeTurns, hturn, Outcome.finished.injEq] at hrun
      obtain ⟨rfl, rfl⟩ := hrun
      exact ⟨0, by simp [preorder, hv, hstops]⟩
  · rintro ⟨depth, h⟩
    simp only [preorder, hv, Option.some.injEq, Ending.mk.injEq] at h
    obtain ⟨rfl, rfl, rfl⟩ := h
    exact ⟨1, by simp [runWith, takeTurns, hturn], hstops 0⟩

/-- If the root can be read, it is the first turn, and all others are turns
below it. -/
theorem runWith_iff_preorder_of_ok {b : Build} {host : Host σ} {w after : World σ} {v : Visit}
    (hv : b.visit host b.start w = (.ok v, after)) (shown : List Stop)
    (result : Except Failure Report) (final : World σ) :
    (∃ budget, b.runWith host budget w = .finished result final ∧
        b.stops host budget (b.begin w) = shown)
      ↔ ∃ depth, b.preorder host depth w = some ⟨shown, result, final⟩ := by
  have hturn := turn_of_ok (todo_begin b w) hv
  have htodo : todo (afterVisit (b.begin w) v after) = v.next := by
    rw [todo_afterVisit (todo_begin b w), List.append_nil]
  constructor
  · rintro ⟨budget, hrun, rfl⟩
    cases budget with
    | zero => simp [runWith, takeTurns] at hrun
    | succ n =>
      rw [runWith, takeTurns_succ_of_goesOn hturn] at hrun
      obtain ⟨depth, all, hall, hstops, rfl, rfl⟩ := walkAll_of_takeTurns rfl hrun
      rw [htodo] at hall
      refine ⟨depth + 1, ?_⟩
      rw [stops_succ_of_goesOn (todo_begin b w) hturn, hstops]
      simp only [preorder, hv, walk_succ_of_ok hv]
      rw [show b.walkAll host depth v.next after = some all from hall]
      rfl
  · rintro ⟨depth, h⟩
    simp only [preorder, hv] at h
    obtain ⟨all, hall, h⟩ := Option.bind_eq_some_iff.mp h
    cases h
    cases depth with
    | zero => simp [walk] at hall
    | succ depth =>
      rw [walk_succ_of_ok hv] at hall
      obtain ⟨below, hbelow, rfl⟩ := Option.map_eq_some_iff.mp hall
      have hrest : todo (afterVisit (b.begin w) v after) = v.next ++ [] :=
        htodo.trans (List.append_nil _).symm
      obtain ⟨turns, r, hlead, hdone⟩ :=
        exists_leads_inTurn exists_leads_walk hbelow rfl hrest rfl
      have hend := turn_of_todo_eq_nil b host hdone.todo_eq
      have hback : r.pending.back? = none := by rw [back?_eq_head?_todo, hdone.todo_eq]; rfl
      obtain ⟨hturns, hstops⟩ := ((Leads.turn (todo_begin b w) hturn).trans hlead) 1
      refine ⟨1 + (turns + 1), ?_, ?_⟩
      · rw [runWith, hturns]
        simp only [takeTurns, hend, hdone.entries, hdone.world]
        rfl
      · rw [hstops]
        simp only [stops, hback, List.append_nil]
        rfl

/-- Runs and recursive runs end alike: the same files are read under the
same module paths, the host is given the same texts in the same order, and
the reports and the worlds left behind are equal. What a host is given in a
run is what the stops of the run name, however many turns are allowed. -/
theorem runWith_finished_iff_preorder (b : Build) (host : Host σ) (w : World σ)
    (shown : List Stop) (result : Except Failure Report) (after : World σ) :
    ((∃ budget, b.runWith host budget w = .finished result after ∧
        b.stops host budget (b.begin w) = shown)
      ↔ ∃ depth, b.preorder host depth w = some ⟨shown, result, after⟩) ∧
    ∀ budget, b.runWith (watched host) budget (withGiven w [])
      = mapWorld
          (fun after => withGiven after ((b.stops host budget (b.begin w)).flatMap Stop.given))
          (b.runWith host budget w) := by
  refine ⟨?_, fun budget => takeTurns_watched b host budget (b.begin w) []⟩
  cases hv : b.visit host b.start w with
  | mk outcome seen =>
    cases outcome with
    | error f => exact runWith_iff_preorder_of_error hv shown result after
    | ok v => exact runWith_iff_preorder_of_ok hv shown result after

end EnumCompanion.Build
