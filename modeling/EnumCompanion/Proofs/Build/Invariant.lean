import EnumCompanion.Build

/-!
# `EnumCompanion.Proofs.Build.Invariant`: what holds throughout a run

A run prints, logs, and makes requests to its host, and does nothing else
to the world. So a property of worlds that survives each of these four
survives the run, whatever is read on the way.

* `Host.Preserves`: the four steps keep a property.
* `Preserves.visit`: then the visit of a file keeps it.
* `Preserves.runWith`: then a run that ends keeps it, however it ends.
-/

set_option autoImplicit false

namespace EnumCompanion

/-- Whatever is done to the world in a run with the host keeps a property. -/
structure Host.Preserves {σ : Type} (host : Host σ) (Q : World σ → Prop) : Prop where
  print : ∀ {w} line, Q w → Q (w.print line)
  note : ∀ {w} level message, Q w → Q (w.note level message)
  emit : ∀ {w} name text, Q w → Q (host.emit name text w).2
  report : ∀ {w} message, Q w → Q (host.report message w)

namespace Host.Preserves

variable {σ : Type} {host : Host σ} {Q : World σ → Prop}

/-! ### One file -/

theorem putAway (hhost : host.Preserves Q) (c : Companion) {w : World σ} (h : Q w) :
    Q (Build.emit host c w).2 := by
  have hemit := hhost.emit c.qualifiedName c.text h
  unfold Build.emit
  split
  · next hanswer =>
    rw [hanswer] at hemit
    exact hemit
  · next hanswer =>
    rw [hanswer] at hemit
    exact hhost.report _ hemit

theorem handle (hhost : host.Preserves Q) (b : Build) (d : Declaration) {w : World σ} (h : Q w) :
    Q (b.handle host d w).2 := by
  unfold Build.handle
  split
  · exact hhost.note _ _ h
  · exact hhost.note _ _ (hhost.note _ _ h)
  · exact hhost.putAway _ (hhost.note _ _ h)

theorem handleAll (hhost : host.Preserves Q) (b : Build) (ds : List Declaration) {w : World σ}
    (h : Q w) : Q (b.handleAll host ds w).2 := by
  induction ds generalizing w with
  | nil => exact h
  | cons d rest ih => exact ih (hhost.handle b d h)

theorem announce (hhost : host.Preserves Q) (b : Build) (path : FilePath) {w : World σ}
    (h : Q w) : Q (b.announce path w) := by
  unfold Build.announce
  split
  · exact hhost.print _ h
  · exact h

theorem noteUnlocated (hhost : host.Preserves Q) (ms : List ModuleFile) {w : World σ} (h : Q w) :
    Q (ms.foldl Build.noteUnlocated w) := by
  induction ms generalizing w with
  | nil => exact h
  | cons m ms ih => exact ih (hhost.note _ _ h)

/-- A property that is kept by all that a host does is kept by the visit of a
file. -/
theorem visit (hhost : host.Preserves Q) (b : Build) (s : Source) {w : World σ} (h : Q w) :
    Q (b.visit host s w).2 := by
  have hannounced := hhost.announce b s.path h
  unfold Build.visit
  simp only
  split
  · exact hannounced
  · exact hhost.noteUnlocated _ (hhost.handleAll b _ hannounced)

/-! ### Runs -/

/-- A turn keeps the property, and so does the turn that ends the run. -/
theorem turn (hhost : host.Preserves Q) (b : Build) {r : Run σ} (h : Q r.world) :
    match b.turn host r with
    | .ends _ after => Q after
    | .goesOn next => Q next.world := by
  unfold Build.turn
  cases r.pending.back? with
  | none => exact hhost.note _ _ h
  | some s =>
    have hvisit := hhost.visit b s h
    cases hv : b.visit host s r.world with
    | mk outcome after =>
      rw [hv] at hvisit
      cases outcome with
      | ok v =>
        simp only [hv]
        exact hvisit
      | error f =>
        simp only [hv]
        -- Without the outermost module the run ends; any other is noted and passed over.
        by_cases hroot : r.atRoot = true
        · rw [if_pos hroot]
          exact hvisit
        · rw [if_neg hroot]
          exact hhost.note _ _ hvisit

/-- Turns keep the property: the induction is on the budget. -/
theorem takeTurns (hhost : host.Preserves Q) (b : Build) {budget : Nat} {r : Run σ}
    {result : Except Failure Report} {after : World σ} (h : Q r.world)
    (hend : b.takeTurns host budget r = .finished result after) : Q after := by
  induction budget generalizing r with
  | zero => cases hend
  | succ budget ih =>
    have hturn := hhost.turn b h
    unfold Build.takeTurns at hend
    cases hr : b.turn host r with
    | ends result' last =>
      rw [hr] at hend hturn
      cases hend
      exact hturn
    | goesOn next =>
      rw [hr] at hend hturn
      exact ih hturn hend

/-- A property that is kept by all that a host does holds at the end of a run
if it holds at the start. -/
theorem runWith (hhost : host.Preserves Q) (b : Build) {budget : Nat} {w : World σ}
    {result : Except Failure Report} {after : World σ} (h : Q w)
    (hend : b.runWith host budget w = .finished result after) : Q after :=
  hhost.takeTurns b h hend

end Host.Preserves

end EnumCompanion
