import EnumCompanion.Build.World
import EnumCompanion.Text.Occurs

/-!
# `EnumCompanion.Build.Recorder`: companions kept in memory

A recorder keeps the texts that it is given and the messages that it is
told, and touches nothing else. It refuses names with given fragments, so
that a build can be watched when companions cannot be put away.
-/

set_option autoImplicit false

namespace EnumCompanion

/-- What a recorder has been given. -/
structure Recording where
  /-- The texts, each with its name, in order. -/
  kept : List (String × String)
  /-- The messages, in order. -/
  messages : List String
  deriving DecidableEq, Repr

namespace Recording

/-- Nothing yet. -/
def empty : Recording := ⟨[], []⟩

end Recording

namespace Host

/-- Whether a name has one of the fragments. -/
def isRefused (fragments : List String) (name : String) : Bool :=
  fragments.any fun f => Text.occursIn f.toList name.toList

/-- The host that keeps all texts but those under names with one of the
fragments. -/
def recorder (fragments : List String) : Host Recording where
  emit name text w :=
    if isRefused fragments name then (none, w)
    else
      (some ⟨"recorded/" ++ name⟩,
        { w with state := { w.state with kept := w.state.kept ++ [(name, text)] } })
  report message w :=
    { w with state := { w.state with messages := w.state.messages ++ [message] } }

end Host

end EnumCompanion
