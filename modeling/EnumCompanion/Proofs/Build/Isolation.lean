import EnumCompanion.Proofs.Build.Lockstep

/-!
# `EnumCompanion.Proofs.Build.Isolation`: what a refused companion changes

A recorder that refuses some names is compared with one that refuses none,
on the same build and the same world. The two runs stay together, and a
companion that is refused is missing where it would have been, and nowhere
else.

* `Diverts`: what becomes of the entry for a companion that is refused.
* `Isolated`: what two runs have come to, in terms of the companions that
  the first one has been given.
* `lockstep_recorder`: every step keeps this. Only the step with a companion
  looks at its name.
* `recorder_isolates`: two whole runs.
-/

set_option autoImplicit false

namespace EnumCompanion

/-! ### Refusals -/

namespace Host

/-- A name is refused if and only if it has one of the fragments in it. -/
theorem isRefused_iff {fragments : List String} {name : String} :
    isRefused fragments name = true ↔ ∃ f ∈ fragments, f.toList <:+: name.toList := by
  simp only [isRefused, List.any_eq_true, Text.occursIn_iff]

/-- Without fragments, no name is refused. -/
theorem isRefused_nil (name : String) : isRefused [] name = false := rfl

/-- Where a recorder says that it keeps a text. -/
def recordedPath (name : String) : FilePath :=
  ⟨"recorded/" ++ name⟩

end Host

namespace Build

open Host

/-- A companion that is not refused is kept. -/
theorem emit_recorder_of_accepted {fragments : List String} {c : Companion}
    (h : isRefused fragments c.qualifiedName = false) (w : World Recording) :
    emit (.recorder fragments) c w =
      (.generated (recordedPath c.qualifiedName),
        { w with state :=
          { w.state with kept := w.state.kept ++ [(c.qualifiedName, c.text)] } }) := by
  simp only [emit, recorder, h]
  rfl

/-- A companion that is refused gives a failure and a message. -/
theorem emit_recorder_of_refused {fragments : List String} {c : Companion}
    (h : isRefused fragments c.qualifiedName = true) (w : World Recording) :
    emit (.recorder fragments) c w =
      (.failed (.emission c.qualifiedName),
        { w with state :=
          { w.state with messages := w.state.messages ++ [emissionFailure] } }) := by
  simp only [emit, recorder, h]
  rfl

/-! ### Two runs side by side -/

/-- The entries of a run in which nothing is refused, and those of a run with
refusals, for the names and texts that the first one has been given. They
correspond place by place. -/
inductive Diverted (fragments : List String) :
    List (String × String) → List Report.Entry → List Report.Entry → Prop
  | nil : Diverted fragments [] [] []
  /-- A companion that is not refused is where it would have been. -/
  | kept {name text : String} {emitted : List (String × String)} {es fs : List Report.Entry}
      (hname : isRefused fragments name = false) (hrest : Diverted fragments emitted es fs) :
      Diverted fragments ((name, text) :: emitted) (.generated (recordedPath name) :: es)
        (.generated (recordedPath name) :: fs)
  /-- A companion that is refused is a failure in its place. -/
  | refused {name text : String} {emitted : List (String × String)} {es fs : List Report.Entry}
      (hname : isRefused fragments name = true) (hrest : Diverted fragments emitted es fs) :
      Diverted fragments ((name, text) :: emitted) (.generated (recordedPath name) :: es)
        (.failed (.emission name) :: fs)
  /-- Whatever is not about a companion is the same. -/
  | plain {e : Report.Entry} {emitted : List (String × String)} {es fs : List Report.Entry}
      (he : IsPlain e) (hrest : Diverted fragments emitted es fs) :
      Diverted fragments emitted (e :: es) (e :: fs)

namespace Diverted

variable {fragments : List String} {emitted more : List (String × String)}
  {es fs es' fs' : List Report.Entry}

theorem append (h : Diverted fragments emitted es fs) (h' : Diverted fragments more es' fs') :
    Diverted fragments (emitted ++ more) (es ++ es') (fs ++ fs') := by
  induction h with
  | nil => exact h'
  | kept hname _ ih => exact .kept hname ih
  | refused hname _ ih => exact .refused hname ih
  | plain he _ ih => exact .plain he ih

/-- Without refusals, all companions are put away. -/
theorem generated_left (h : Diverted fragments emitted es fs) :
    Report.generated ⟨es⟩ = emitted.map fun e => recordedPath e.1 := by
  induction h with
  | nil => rfl
  | kept _ _ ih => exact congrArg (_ :: ·) ih
  | refused _ _ ih => exact congrArg (_ :: ·) ih
  | @plain e _ _ _ he _ ih =>
    cases e with
    | generated path => cases he
    | skipped place => exact ih
    | failed f => exact ih

/-- With refusals, the companions whose names are not refused are put away. -/
theorem generated_right (h : Diverted fragments emitted es fs) :
    Report.generated ⟨fs⟩ =
      (emitted.filter fun e => !isRefused fragments e.1).map fun e => recordedPath e.1 := by
  induction h with
  | nil => rfl
  | kept hname _ ih =>
    rw [List.filter_cons_of_pos (by simp [hname])]
    exact congrArg (_ :: ·) ih
  | refused hname _ ih =>
    rw [List.filter_cons_of_neg (by simp [hname])]
    exact ih
  | @plain e _ _ _ he _ ih =>
    cases e with
    | generated path => cases he
    | skipped place => exact ih
    | failed f => exact ih

/-- What is passed over is the same. -/
theorem skipped (h : Diverted fragments emitted es fs) :
    Report.skipped ⟨fs⟩ = Report.skipped ⟨es⟩ := by
  induction h with
  | nil => rfl
  | kept _ _ ih => exact ih
  | refused _ _ ih => exact ih
  | @plain e _ _ _ he _ ih =>
    cases e with
    | generated path => cases he
    | skipped place => exact congrArg (_ :: ·) ih
    | failed f => exact ih

/-- The failures are those of the run without refusals, and between them one
for each companion that is refused, in order. -/
theorem failures (h : Diverted fragments emitted es fs) :
    (Report.failures ⟨fs⟩).filter (!·.isEmission) = Report.failures ⟨es⟩ ∧
      (Report.failures ⟨fs⟩).filter Failure.isEmission =
        (emitted.filter fun e => isRefused fragments e.1).map fun e => .emission e.1 := by
  induction h with
  | nil => exact ⟨rfl, rfl⟩
  | kept hname _ ih =>
    rw [List.filter_cons_of_neg (by simp [hname])]
    exact ih
  | @refused name text emitted es fs hname _ ih =>
    rw [List.filter_cons_of_pos (by simp [hname])]
    exact ⟨ih.1, congrArg (Failure.emission name :: ·) ih.2⟩
  | @plain e _ es fs he _ ih =>
    cases e with
    | generated path => cases he
    | skipped place => exact ih
    | failed f =>
      have hf : f.isEmission = false := he
      have hcons : ∀ rest, Report.failures ⟨.failed f :: rest⟩ = f :: Report.failures ⟨rest⟩ :=
        fun _ => rfl
      rw [hcons, hcons, List.filter_cons_of_pos (by simp [hf]), List.filter_cons_of_neg (by simp [hf])]
      exact ⟨congrArg (f :: ·) ih.1, ih.2⟩

end Diverted

/-- What two runs have come to that started from one recording: `p` without
refusals, `q` with them. The names and texts are those that the first run
has been given. -/
structure Isolated (fragments : List String) (start : Recording)
    (emitted : List (String × String)) (p q : Progress Recording) : Prop where
  tree : q.world.tree = p.world.tree
  console : q.world.console = p.world.console
  entries : Diverted fragments emitted p.entries q.entries
  /-- Without refusals, all texts are kept, and there is no message. -/
  all : p.world.state = ⟨start.kept ++ emitted, start.messages⟩
  /-- With refusals, the texts whose names are not refused are kept, and there
  is one message for each of the others. -/
  rest : q.world.state =
    ⟨start.kept ++ emitted.filter fun e => !isRefused fragments e.1,
      start.messages ++
        List.replicate (emitted.countP fun e => isRefused fragments e.1) emissionFailure⟩

/-- A companion is one more that the first run is given. Whether the second run
keeps it depends on its name. -/
theorem Isolated.emit {fragments : List String} {start : Recording}
    {emitted : List (String × String)} {es fs : List Report.Entry} {w v : World Recording}
    (c : Companion) (h : Isolated fragments start emitted ⟨es, w⟩ ⟨fs, v⟩) :
    Isolated fragments start (emitted ++ [(c.qualifiedName, c.text)])
      ⟨es ++ [(Build.emit (.recorder []) c w).1], (Build.emit (.recorder []) c w).2⟩
      ⟨fs ++ [(Build.emit (.recorder fragments) c v).1],
        (Build.emit (.recorder fragments) c v).2⟩ := by
  obtain ⟨htree, hconsole, hentries, hall, hrest⟩ := h
  simp only at htree hconsole hall hrest
  -- The first run keeps every companion.
  rw [emit_recorder_of_accepted (isRefused_nil _)]
  cases hname : isRefused fragments c.qualifiedName with
  | false =>
    rw [emit_recorder_of_accepted hname]
    refine ⟨htree, hconsole, hentries.append (.kept hname .nil), ?_, ?_⟩
    · simp only [hall, List.append_assoc]
    · simp [hrest, hname, List.filter_append, List.countP_append]
  | true =>
    rw [emit_recorder_of_refused hname]
    refine ⟨htree, hconsole, hentries.append (.refused hname .nil), ?_, ?_⟩
    · simp only [hall, List.append_assoc]
    · simp [hrest, hname, List.filter_append, List.countP_append, List.replicate_add]

/-- Two runs that differ in what is refused stay together. Their trees are the
same all along, as a recorder writes no files. -/
theorem lockstep_recorder (b : Build) (fragments : List String) (start : Recording) :
    Lockstep b (.recorder []) (.recorder fragments) (fun _ => True) (fun _ => True)
      (fun p q => ∃ emitted, Isolated fragments start emitted p q) where
  print line := by
    rintro ⟨emitted, h⟩
    exact ⟨emitted, h.tree, congrArg (· ++ [line]) h.console, h.entries, h.all, h.rest⟩
  note level message := by
    rintro ⟨emitted, h⟩
    exact ⟨emitted, h.tree, h.console, h.entries, h.all, h.rest⟩
  plain he := by
    rintro ⟨emitted, h⟩
    have hentries := h.entries.append (.plain he .nil)
    rw [List.append_nil] at hentries
    exact ⟨emitted, h.tree, h.console, hentries, h.all, h.rest⟩
  emit c := by
    rintro ⟨emitted, h⟩ -
    exact ⟨_, h.emit c⟩
  before _ _ := trivial
  ahead _ := trivial
  reads := by
    rintro p q s ⟨emitted, h⟩ -
    rw [h.tree]
  finds := by
    rintro p q x found ⟨emitted, h⟩ - - - m -
    rw [h.tree]

/-! ### Whole runs -/

/-- A run with a recorder that refuses names, compared with the run in which
nothing is refused. A name is refused if it has one of the fragments in it.
Both runs are cut short, both fail, or both come to a report. What is refused
is missing from what is kept and from the companions that are put away; it is
a failure in its place among the entries, and one message. All else is the
same. -/
theorem recorder_isolates (b : Build) (fragments : List String) (budget : Nat)
    (w : World Recording) :
    (∀ name, isRefused fragments name = true ↔ ∃ f ∈ fragments, f.toList <:+: name.toList) ∧
    match b.runWith (.recorder []) budget w, b.runWith (.recorder fragments) budget w with
    | .exhausted, .exhausted => True
    | .finished (.error f) after, .finished (.error f') after' =>
      f' = f ∧ after.state = w.state ∧ after'.state = w.state
    | .finished (.ok all) after, .finished (.ok report) after' =>
      ∃ emitted, Isolated fragments w.state emitted ⟨all.entries, after⟩ ⟨report.entries, after'⟩ ∧
        all.generated = (emitted.map fun e => recordedPath e.1) ∧
        report.generated =
          ((emitted.filter fun e => !isRefused fragments e.1).map fun e => recordedPath e.1) ∧
        report.skipped = all.skipped ∧
        report.failures.filter (!·.isEmission) = all.failures ∧
        report.failures.filter Failure.isEmission =
          (emitted.filter fun e => isRefused fragments e.1).map fun e => .emission e.1
    | _, _ => False := by
  refine ⟨fun name => isRefused_iff, ?_⟩
  have hstart : Isolated fragments w.state [] ⟨[], w⟩ ⟨[], w⟩ := by
    refine ⟨rfl, rfl, .nil, ?_, ?_⟩ <;> simp
  have halike := (lockstep_recorder b fragments w.state).runWith budget ⟨[], hstart⟩
    fun _ _ => trivial
  cases budget with
  | zero => trivial
  | succ budget =>
    have hfails := (runWith_accounts b (.recorder []) budget w).2
    have hfails' := (runWith_accounts b (.recorder fragments) budget w).2
    have hstate : (b.announce b.root w).state = w.state := by
      unfold announce
      split <;> rfl
    generalize b.runWith (.recorder []) (budget + 1) w = first at halike hfails
    generalize b.runWith (.recorder fragments) (budget + 1) w = second at halike hfails'
    cases halike with
    | exhausted => trivial
    | failed h =>
      obtain ⟨-, rfl, -⟩ := hfails
      obtain ⟨-, rfl, -⟩ := hfails'
      exact ⟨rfl, hstate, hstate⟩
    | reported h =>
      obtain ⟨emitted, h⟩ := h
      exact ⟨emitted, ⟨h.tree, h.console, h.entries, h.all, h.rest⟩, h.entries.generated_left,
        h.entries.generated_right, h.entries.skipped, h.entries.failures⟩

end Build

end EnumCompanion
