import MapleBus.Peripheral

/-!
# Recorders

A recorder writes down every call it receives.  Unless it is passive, it also
submits one empty packet to itself in every cycle.
-/

namespace MapleBus.Device

namespace Recorder

/-- A call, and what came of a submission. -/
inductive Call where
  | task (now : UInt64)
  | scheduled (result : Except BusError UInt32)
  | started (id : UInt32)
  | failed (id : UInt32) (failure : Failure)
  | completed (id : UInt32) (reply : Option Packet)

end Recorder

/-- A peripheral that writes down its calls. -/
structure Recorder where
  address : Address
  passive : Bool := false
  expectsReply : Bool := false
  /-- The calls so far, oldest first. -/
  calls : List Recorder.Call := []

namespace Recorder

/-- Write down a call. -/
def record (recorder : Recorder) (call : Call) : Recorder :=
  { recorder with calls := recorder.calls ++ [call] }

/-- How every recorder describes itself. -/
def info : DeviceInfo :=
  .describing .controller #v[0, 0, 0] "Recording" "Test"

/-- The packet submitted in a cycle. -/
def packet (recorder : Recorder) : Packet where
  command := .dataTransfer
  recipient := recorder.address
  sender := Address.host recorder.address.player

/-- One cycle: write it down and, unless passive, submit a packet. -/
def task (recorder : Recorder) (now : UInt64) : Endpoint Recorder := do
  let recorder := recorder.record (.task now)
  if recorder.passive then
    return recorder
  else
    let answer ← Endpoint.submit recorder.packet recorder.expectsReply
    return recorder.record (.scheduled (answer.map Handle.id))

instance : Peripheral Recorder where
  name _ := "recording"
  address recorder := recorder.address
  functions _ := .controller
  definition _ := 0
  info _ := info
  task := task
  started recorder tx := pure (recorder.record (.started tx.id))
  failed recorder failure tx := pure (recorder.record (.failed tx.id failure))
  completed recorder reply tx := pure (recorder.record (.completed tx.id reply))

end Recorder

end MapleBus.Device
