import MapleBus.Counters
import MapleBus.Exchange.Completion
import MapleBus.Exchange.Wire
import MapleBus.Scheduler.Event
import MapleBus.Scheduler.Table

/-!
# The transmission scheduler

A scheduler owns the table, the completion cell, the event queue and the
counters of one half-duplex bus.  It accepts a transmission only while none is
outstanding, hands it to the wire, settles it when the cell holds an outcome,
and keeps it until its owner has been told.
-/

namespace MapleBus

/-- The state of one bus between operations. -/
structure Scheduler where
  table : Table := {}
  /-- Events that wait for delivery, oldest first. -/
  events : List Event := []
  completion : Completion := {}
  /-- Where harvested reply bytes are put. -/
  receiveBuffer : FrameBuffer := .blank
  nextId : UInt32 := 1
  counters : Counters := {}
  deriving DecidableEq, Repr, Inhabited

namespace Scheduler

/-! ## Looking -/

/-- The transmission behind a handle, until it is released or cancelled. -/
def get? (scheduler : Scheduler) (handle : Handle) : Option Transmission :=
  scheduler.table.get? handle

/-- The status of the transmission behind a handle. -/
def status? (scheduler : Scheduler) (handle : Handle) : Option Status :=
  (scheduler.get? handle).map Transmission.status

/-- The handle of the transmission that occupies the bus. -/
def outstanding? (scheduler : Scheduler) : Option Handle :=
  (scheduler.table.find? fun tx => tx.status.isOutstanding).map Prod.fst

/-- Whether nothing occupies the bus. -/
def isIdle (scheduler : Scheduler) : Bool :=
  scheduler.outstanding?.isNone

/-- How many outstanding transmissions are addressed to `recipient`. -/
def countRecipients (scheduler : Scheduler) (recipient : Address) : Nat :=
  scheduler.table.count fun tx =>
    tx.recipient == recipient && tx.status.isOutstanding

/-! ## Accepting work -/

/-- The identifier after a given one.  Zero is never an identifier. -/
def idAfter (id : UInt32) : UInt32 :=
  if id + 1 = 0 then 1 else id + 1

/-- Accept a transmission of `packet` if nothing occupies the bus and a slot
is free. -/
def schedule (scheduler : Scheduler) (packet : Packet) (expectsReply : Bool) :
    Logged (Except BusError Handle × Scheduler) :=
  match scheduler.outstanding? with
  | some busy => do
      Logged.note .trace "bus busy, rejecting"
        [ ("outstanding", toString busy.id.toNat),
          ("recipient", packet.recipient.text) ]
      return (.error .busBusy,
        { scheduler with counters := scheduler.counters.countRejectedBusy })
  | none =>
      match scheduler.table.free? with
      | none => return (.error .tableFull, scheduler)
      | some slot => do
          let id := scheduler.nextId
          Logged.note .trace "transmission scheduled"
            [ ("id", toString id.toNat), ("recipient", packet.recipient.text),
              ("command", packet.command.name) ]
          return (.ok ⟨slot, id⟩,
            { scheduler with
              table := scheduler.table.put slot { id, packet, expectsReply }
              nextId := idAfter id
              counters := scheduler.counters.countScheduled })

/-! ## Sending -/

/-- Queue an event. -/
def push (scheduler : Scheduler) (event : Event) : Logged Scheduler := do
  let events ← Event.enqueue scheduler.events event
  return { scheduler with events }

/-- Receive a signal from the wire, and tell whether something waited for
it. -/
def signal (scheduler : Scheduler) (signal : Signal) : Bool × Scheduler :=
  let (accepted, completion) := scheduler.completion.signal signal
  (accepted, { scheduler with completion })

/-- Receive signals in order. -/
def hear (scheduler : Scheduler) (signals : List Signal) : Scheduler :=
  { scheduler with completion := scheduler.completion.signals signals }

/-- Hand the pending transmission to the wire.  If the wire refuses, the
transmission stays pending for the next attempt.  The result is the handle of
the transmission that went out. -/
def dispatch {W : Type} [Wire W] (scheduler : Scheduler) (wire : W) :
    Logged (Option Handle × Scheduler × W) :=
  match scheduler.table.find? fun tx => tx.status.isPending with
  | none => return (none, scheduler, wire)
  | some (handle, tx) =>
      let frame := tx.packet.encode
      let armed := scheduler.completion.arm tx.expectsReply
      let (attempt, completion) := Wire.call wire armed frame tx.expectsReply
      match attempt.result with
      | .error refusal => do
          Logged.note .debug "transmit refused, retrying next cycle"
            [ ("id", toString handle.id.toNat), ("recipient", tx.recipient.text),
              ("error", refusal.message) ]
          return (none, { scheduler with completion := completion.disarm },
            attempt.wire)
      | .ok () => do
          Logged.note .trace "transmission sent"
            [ ("id", toString handle.id.toNat), ("recipient", tx.recipient.text),
              ("bytes", toString frame.length) ]
          let scheduler ← push
            { scheduler with
              table := scheduler.table.put handle.slot tx.markSent
              completion
              counters := scheduler.counters.countDispatched }
            { handle, recipient := tx.recipient, kind := .started }
          return (some handle, scheduler, attempt.wire)

/-! ## Settling -/

/-- What an outcome means for a transmission, given the bytes of the reply.  A
reply that cannot be read is a failed read, and the cause is given. -/
def verdict (expectsReply : Bool) (outcome : Outcome) (bytes : List UInt8) :
    Status × Option CodecError :=
  if outcome.writeFailed then
    (.failed .write, none)
  else if outcome.readFailed then
    (.failed .read, none)
  else if expectsReply then
    match Packet.decode bytes with
    | .ok reply => (.succeeded (some reply), none)
    | .error cause => (.failed .read, some cause)
  else
    (.succeeded none, none)

/-- Count the end of a transmission. -/
def countEnd (counters : Counters) : Status → Counters
  | .failed .write => counters.countWriteFailure
  | .failed .read => counters.countReadFailure
  | _ => counters.countSucceeded

/-- The event that tells how a transmission ended. -/
def endKind : Status → Event.Kind
  | .failed _ => .failed
  | _ => .completed

/-- Apply an outcome to the sent transmission behind `handle`. -/
def settle (scheduler : Scheduler) (handle : Handle) (tx : Transmission)
    (outcome : Outcome) : Logged Scheduler := do
  let (status, unreadable) :=
    verdict tx.expectsReply outcome
      (scheduler.receiveBuffer.read outcome.replyLength)
  let kind := endKind status
  let counters :=
    if unreadable.isSome then
      scheduler.counters.countDecodeFailure
    else
      scheduler.counters
  unreadable.forM fun cause =>
    Logged.note .debug "reply did not decode"
      [("id", toString handle.id.toNat), ("error", cause.message)]
  Logged.note .trace "transmission settled"
    [ ("id", toString handle.id.toNat), ("recipient", tx.recipient.text),
      ("kind", kind.name) ]
  push
    { scheduler with
      table := scheduler.table.put handle.slot (tx.finish status)
      counters := countEnd counters status }
    { handle, recipient := tx.recipient, kind }

/-- Harvest the completion cell and settle the transmission it speaks of. -/
def service (scheduler : Scheduler) : Logged Scheduler := do
  let ((outcome?, receiveBuffer), completion) :=
    scheduler.completion.harvest scheduler.receiveBuffer
  let scheduler := { scheduler with completion, receiveBuffer }
  match outcome? with
  | none => return scheduler
  | some outcome =>
      match scheduler.table.find? fun tx => tx.status.isSent with
      | none =>
          Logged.note .trace "completion with nothing in flight, ignoring"
          return scheduler
      | some (handle, tx) => scheduler.settle handle tx outcome

/-! ## Delivering and forgetting -/

/-- Take the oldest event. -/
def nextEvent (scheduler : Scheduler) : Option Event × Scheduler :=
  match scheduler.events with
  | [] => (none, scheduler)
  | event :: events => (some event, { scheduler with events })

/-- Remove the transmission behind a handle once it has ended. -/
def release (scheduler : Scheduler) (handle : Handle) :
    Option Transmission × Scheduler :=
  match (scheduler.get? handle).filter fun tx => tx.status.isTerminal with
  | none => (none, scheduler)
  | some tx =>
      (some tx, { scheduler with table := scheduler.table.vacate handle.slot })

/-- Remove the pending transmissions that satisfy a condition, and tell how
many they were. -/
def removePending (scheduler : Scheduler) (condition : Transmission → Bool) :
    Nat × Scheduler :=
  let doomed (tx : Transmission) : Bool := tx.status.isPending && condition tx
  let cancelled := scheduler.table.count doomed
  (cancelled,
    { scheduler with
      table := scheduler.table.filter fun tx => !doomed tx
      counters := scheduler.counters.countCancelled (UInt32.ofNat cancelled) })

/-- Drop the transmission behind a handle if it is still pending, and tell
whether it was. -/
def cancel (scheduler : Scheduler) (handle : Handle) : Bool × Scheduler :=
  let (cancelled, scheduler) := scheduler.removePending fun tx => tx.id == handle.id
  (cancelled != 0, scheduler)

/-- Drop the pending transmissions addressed to `recipient`, and tell how many
they were. -/
def cancelByRecipient (scheduler : Scheduler) (recipient : Address) :
    Nat × Scheduler :=
  scheduler.removePending fun tx => tx.recipient == recipient

/-- Drop every pending transmission, and with them the events whose
transmission is gone. -/
def cancelAll (scheduler : Scheduler) : Logged (Nat × Scheduler) := do
  let (cancelled, scheduler) := scheduler.removePending fun _ => true
  let events ←
    Event.turn (fun event => (scheduler.get? event.handle).isSome)
      scheduler.events.length scheduler.events
  return (cancelled, { scheduler with events })

/-- The state of a scheduler, spelled out. -/
def dump (scheduler : Scheduler) : String :=
  "BusScheduler \x7b table: " ++ scheduler.table.dump ++
    s!", events: {scheduler.events.length}, next_id: {scheduler.nextId.toNat}, .. \x7d"

end Scheduler

end MapleBus
