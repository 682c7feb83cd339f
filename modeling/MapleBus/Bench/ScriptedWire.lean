import MapleBus.Exchange.Wire

/-!
# A scripted wire

A wire for trying out a bus: it remembers every frame and reacts to each one
as a script says, within the call.  When the script is used up, every further
frame meets the same fallback.
-/

namespace MapleBus.Bench

/-- What the wire does with a frame. -/
inductive Reaction where
  /-- Nothing at all. -/
  | silent
  /-- The write completes. -/
  | writeComplete
  /-- The write fails. -/
  | writeFailed
  /-- The write completes and no reply arrives. -/
  | readFailed
  /-- The write completes and these bytes come back. -/
  | reply (bytes : List UInt8)

/-- The signals of a reaction, in order. -/
def Reaction.signals : Reaction → List Signal
  | silent => []
  | writeComplete => [.writeComplete]
  | writeFailed => [.writeFailed]
  | readFailed => [.writeComplete, .readFailed]
  | reply bytes => [.writeComplete, .replyReceived bytes]

/-- A frame handed to the wire. -/
structure SentFrame where
  bytes : List UInt8
  expectsReply : Bool

/-- A wire that follows a script. -/
structure ScriptedWire where
  script : List Reaction := []
  fallback : Reaction := .silent
  /-- Refuse every frame. -/
  rejecting : Bool := false
  /-- Take every frame and react to it, and refuse it nevertheless. -/
  rejectingLate : Bool := false
  /-- Whether the wire can raise signals. -/
  connected : Bool := true
  /-- The frames taken so far. -/
  sent : List SentFrame := []

namespace ScriptedWire

/-- Add a reaction to the script. -/
def push (wire : ScriptedWire) (reaction : Reaction) : ScriptedWire :=
  { wire with script := wire.script ++ [reaction] }

/-- Take the remembered frames. -/
def takeSent (wire : ScriptedWire) : List SentFrame × ScriptedWire :=
  (wire.sent, { wire with sent := [] })

/-- React to a frame. -/
def react (wire : ScriptedWire) (frame : List UInt8) (expectsReply : Bool) :
    Wire.Attempt ScriptedWire :=
  if wire.rejecting then
    { wire, signals := [], result := .error .physicalLayerRejected }
  else
    let reaction := wire.script.headD wire.fallback
    { wire :=
        { wire with
          script := wire.script.tail
          sent := wire.sent ++ [{ bytes := frame, expectsReply }] }
      signals := if wire.connected then reaction.signals else []
      result :=
        if wire.rejectingLate then .error .physicalLayerRejected else .ok () }

instance : Wire ScriptedWire where
  transmit := react

end ScriptedWire

end MapleBus.Bench
