/-!
# Locks

A lock guards what the task loop and the completion interrupt share.  It is
not reentrant: whoever acquires a held lock would wait forever.  Besides being
held or free, a lock counts how often it was taken and given back, remembers
whether an acquisition ever found it held, and remembers how it stood whenever
the code that shares it called out, so that balance and the absence of deadlock
can be stated.
-/

namespace MapleBus

/-- How a lock stood when the code that shares it called out. -/
structure Lock.Call where
  held : Bool
  /-- How often the lock had been taken by then. -/
  acquisitions : UInt32
  deriving DecidableEq, Repr

/-- A test-and-set lock with its history. -/
structure Lock where
  held : Bool := false
  acquisitions : UInt32 := 0
  releases : UInt32 := 0
  /-- An acquisition found the lock held and would not have returned. -/
  deadlocked : Bool := false
  /-- The calls out, the latest first. -/
  calls : List Lock.Call := []
  deriving DecidableEq, Repr, Inhabited

namespace Lock

variable {α : Type}

/-- Take the lock; if it is held already, only remember that. -/
def acquire (lock : Lock) : Lock :=
  if lock.held then
    { lock with deadlocked := true }
  else
    { lock with held := true, acquisitions := lock.acquisitions + 1 }

/-- Give the lock back. -/
def release (lock : Lock) : Lock :=
  { lock with held := false, releases := lock.releases + 1 }

/-- Take the lock if it is free, and tell whether it was. -/
def tryAcquire (lock : Lock) : Bool × Lock :=
  if lock.held then (false, lock) else (true, lock.acquire)

/-- Call out, and remember how the lock stands then. -/
def callOut (lock : Lock) : Lock :=
  { lock with calls := { held := lock.held, acquisitions := lock.acquisitions } :: lock.calls }

/-- Run a critical section between one acquisition and one release. -/
def guarded (lock : Lock) (critical : Lock → α × Lock) : α × Lock :=
  let (result, lock) := critical lock.acquire
  (result, lock.release)

/-- A critical section that leaves the lock alone returns a free lock free and
counts once on each side. -/
theorem guarded_of_free {lock : Lock} (free : lock.held = false) (result : α) :
    lock.guarded (fun lock => (result, lock)) =
      (result,
        { lock with
          acquisitions := lock.acquisitions + 1
          releases := lock.releases + 1 }) := by
  simp [guarded, acquire, release, free]

end Lock

end MapleBus
