/-!
# Activity counters

How often each thing happened on a bus.  Counters are thirty-two-bit words
and wrap around.
-/

namespace MapleBus

/-- What a bus has done so far. -/
structure Counters where
  scheduled : UInt32 := 0
  rejectedBusy : UInt32 := 0
  dispatched : UInt32 := 0
  succeeded : UInt32 := 0
  writeFailures : UInt32 := 0
  readFailures : UInt32 := 0
  decodeFailures : UInt32 := 0
  cancelled : UInt32 := 0
  deriving DecidableEq, Repr, Inhabited

namespace Counters

/-- Transmissions that ended, one way or another. -/
def completed (counters : Counters) : UInt32 :=
  counters.succeeded + counters.writeFailures + counters.readFailures

def countScheduled (counters : Counters) : Counters :=
  { counters with scheduled := counters.scheduled + 1 }

def countRejectedBusy (counters : Counters) : Counters :=
  { counters with rejectedBusy := counters.rejectedBusy + 1 }

def countDispatched (counters : Counters) : Counters :=
  { counters with dispatched := counters.dispatched + 1 }

def countSucceeded (counters : Counters) : Counters :=
  { counters with succeeded := counters.succeeded + 1 }

def countWriteFailure (counters : Counters) : Counters :=
  { counters with writeFailures := counters.writeFailures + 1 }

def countReadFailure (counters : Counters) : Counters :=
  { counters with readFailures := counters.readFailures + 1 }

/-- Count a reply that could not be read.  Its exchange also counts as a read
failure. -/
def countDecodeFailure (counters : Counters) : Counters :=
  { counters with decodeFailures := counters.decodeFailures + 1 }

def countCancelled (counters : Counters) (amount : UInt32) : Counters :=
  { counters with cancelled := counters.cancelled + amount }

end Counters

end MapleBus
