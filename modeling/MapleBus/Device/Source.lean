/-!
# Input sources

Whatever a player holds is read by taking snapshots of its latest state.  A
draining source starts again from the resting state after each snapshot, as
relative motion does.
-/

namespace MapleBus.Device

/-- The latest state of an input, and how often it was read.  The default
state is the input at rest. -/
structure Source (S : Type) where
  state : S
  reads : Nat := 0
  draining : Bool := false
  deriving Repr

namespace Source

variable {S : Type}

/-- Take a snapshot. -/
def snapshot [Inhabited S] (source : Source S) : S × Source S :=
  (source.state,
    { source with
      state := if source.draining then default else source.state
      reads := source.reads + 1 })

/-- Replace the state. -/
def set (source : Source S) (state : S) : Source S :=
  { source with state }

end Source

end MapleBus.Device
