import MapleBus.Log
import MapleBus.Packet.Frame

/-!
# Transmissions

One exchange on the bus: a packet to send and, when one is expected, a reply
to read.  A transmission starts pending, is sent when the wire accepts it, and
ends either succeeded or failed.  The reply and the phase that failed belong
to the states that have them.
-/

namespace MapleBus

/-- The part of an exchange that went wrong. -/
inductive Failure where
  /-- The write did not complete. -/
  | write
  /-- The reply was missing, garbled or late. -/
  | read
  deriving DecidableEq, Repr

namespace Failure

/-- Whether the write failed. -/
def isWrite : Failure → Bool
  | write => true
  | read => false

/-- Whether the read failed. -/
def isRead : Failure → Bool
  | write => false
  | read => true

end Failure

/-- How far an exchange has come. -/
inductive Status where
  /-- Accepted, and not yet on the wire. -/
  | pending
  /-- Handed to the wire. -/
  | sent
  /-- Finished, with the reply that was read. -/
  | succeeded (reply : Option Packet)
  /-- Finished without success. -/
  | failed (failure : Failure)
  deriving DecidableEq, Repr

namespace Status

def isPending : Status → Bool
  | pending => true
  | _ => false

def isSent : Status → Bool
  | sent => true
  | _ => false

/-- Whether the exchange is over. -/
def isTerminal : Status → Bool
  | pending | sent => false
  | succeeded _ | failed _ => true

/-- Whether the exchange still occupies the bus. -/
def isOutstanding (status : Status) : Bool :=
  !status.isTerminal

/-- The place of a status in the order exchanges pass through. -/
def code : Status → Nat
  | pending => 0
  | sent => 1
  | succeeded _ => 2
  | failed _ => 3

def name : Status → String
  | pending => "Pending"
  | sent => "Sent"
  | succeeded _ => "Succeeded"
  | failed _ => "Failed"

/-- The reply that was read. -/
def reply? : Status → Option Packet
  | succeeded reply => reply
  | _ => none

/-- The phase that failed. -/
def failure? : Status → Option Failure
  | failed failure => some failure
  | _ => none

@[simp]
theorem isPending_iff {status : Status} : status.isPending = true ↔ status = pending := by
  cases status <;> simp [isPending]

@[simp]
theorem isSent_iff {status : Status} : status.isSent = true ↔ status = sent := by
  cases status <;> simp [isSent]

/-- What occupies the bus is pending or sent. -/
theorem isOutstanding_iff {status : Status} :
    status.isOutstanding = true ↔ status = pending ∨ status = sent := by
  cases status <;> simp [isOutstanding, isTerminal]

/-- An exchange is over exactly when it no longer occupies the bus. -/
theorem isTerminal_iff {status : Status} :
    status.isTerminal = true ↔ status ≠ pending ∧ status ≠ sent := by
  cases status <;> simp [isTerminal]

end Status

/-- One exchange on the bus.  The identifier is zero until the exchange is
scheduled. -/
structure Transmission where
  id : UInt32 := 0
  packet : Packet
  expectsReply : Bool
  status : Status := .pending
  deriving DecidableEq, Repr

namespace Transmission

def recipient (tx : Transmission) : Address :=
  tx.packet.recipient

/-- Take note that a pending exchange was handed to the wire. -/
def markSent (tx : Transmission) : Transmission :=
  if tx.status.isPending then { tx with status := .sent } else tx

/-- Take note of how an exchange on the wire ended. -/
def finish (tx : Transmission) (status : Status) : Transmission :=
  if tx.status.isSent then { tx with status } else tx

def writeFailed (tx : Transmission) : Bool :=
  tx.status.failure?.any Failure.isWrite

def readFailed (tx : Transmission) : Bool :=
  tx.status.failure?.any Failure.isRead

def reply? (tx : Transmission) : Option Packet :=
  tx.status.reply?

@[simp]
theorem markSent_of_pending {tx : Transmission} (pending : tx.status = .pending) :
    tx.markSent = { tx with status := .sent } := by
  simp [markSent, pending]

@[simp]
theorem finish_of_sent {tx : Transmission} (sent : tx.status = .sent) (status : Status) :
    tx.finish status = { tx with status } := by
  simp [finish, sent]

/-- The longest an exchange can occupy the bus: the line check, the write and,
when a reply is expected, the response window. -/
def estimatedMicros (tx : Transmission) : Nat :=
  WireTime.openLineCheckMicros + tx.packet.wireMicros.toNat +
    (if tx.expectsReply then WireTime.responseTimeoutMicros else 0)

/-- The fields of a transmission, spelled out. -/
def dump (tx : Transmission) : String :=
  let reply :=
    match tx.reply? with
    | some packet => "Some(" ++ packet.dump ++ ")"
    | none => "None"
  s!"Transmission \x7b id: {tx.id.toNat}, packet: " ++ tx.packet.dump ++
    s!", expects_reply: {Log.flag tx.expectsReply}, status: {tx.status.name}" ++
    s!", write_failed: {Log.flag tx.writeFailed}" ++
    s!", read_failed: {Log.flag tx.readFailed}, reply: " ++ reply ++ " \x7d"

end Transmission

end MapleBus
