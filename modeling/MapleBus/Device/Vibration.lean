import MapleBus.Device.Player
import MapleBus.Device.Vibration.Effect
import MapleBus.Peripheral
import MapleBus.Saturating

/-!
# Vibration packs

A vibration pack is driven by effects left in its mailbox; a newer effect
replaces one that has not been sent.  An effect that fails is sent again, three
times at most, unless a newer one is waiting, even one for a later time.  With
nothing else to send, the first transmission is a stop.
-/

namespace MapleBus.Device

namespace Vibration

/-- The definition word of a standard pack: one source, fixed position,
variable frequency. -/
def packDefinition : UInt32 := 0x01010000

/-- Attempts made for one effect. -/
def maxAttempts : Nat := 3

/-- Why an effect did not take hold. -/
inductive Fault where
  /-- Every attempt failed on the bus; the last one in this phase. -/
  | transfer (failure : Failure)
  /-- The device sent something other than an acknowledgement. -/
  | refused (command : Command)
  deriving DecidableEq, Repr

/-- Where effects are left and outcomes are found. -/
structure Mailbox where
  /-- The effect to send next and the earliest time for it. -/
  queued : Option (UInt64 × Effect) := none
  /-- Effects the device has acknowledged, up to the largest count. -/
  delivered : UInt32 := 0
  fault : Option Fault := none
  deriving DecidableEq, Repr, Inhabited

namespace Mailbox

/-- Leave an effect to go out no earlier than a given time, in place of any
that has not been sent. -/
def post (mailbox : Mailbox) (time : UInt64) (effect : Effect) : Mailbox :=
  { mailbox with queued := some (time, effect), fault := none }

/-- Whether an effect waits to be sent. -/
def isPending (mailbox : Mailbox) : Bool :=
  mailbox.queued.isSome

/-- The effect that may be sent at a given time. -/
def due? (mailbox : Mailbox) (now : UInt64) : Option Effect :=
  (mailbox.queued.filter fun (time, _) => time ≤ now).map Prod.snd

/-- Leave the outcome of an effect. -/
def publish (mailbox : Mailbox) (result : Except Fault Unit) : Mailbox :=
  match result with
  | .ok () =>
      { mailbox with delivered := Saturating.word32 (mailbox.delivered.toNat + 1) }
  | .error fault => { mailbox with fault := some fault }

/-- Take the fault of the last effect. -/
def takeFault (mailbox : Mailbox) : Option Fault × Mailbox :=
  (mailbox.fault, { mailbox with fault := none })

end Mailbox

/-- What a reply says about an effect. -/
def interpret (reply : Option Packet) : Except Fault Unit :=
  match reply.map Packet.command with
  | none | some .ack => .ok ()
  | some other => .error (.refused other)

end Vibration

/-- A vibration pack. -/
structure Vibration where
  address : Address
  player : Player
  /-- The definition word it was made with. -/
  definitionWord : UInt32
  mailbox : Vibration.Mailbox := {}
  /-- The effect under way and its handle. -/
  inFlight : Option (Handle × Vibration.Effect) := none
  /-- An effect to send again. -/
  retry : Option Vibration.Effect := none
  /-- Attempts of the current effect that failed. -/
  attempts : Nat := 0
  /-- Nothing has been sent yet. -/
  first : Bool := true
  deriving DecidableEq, Repr

namespace Vibration

/-- How the pack describes itself. -/
def info (pack : Vibration) : DeviceInfo :=
  .describing .vibration #v[pack.definitionWord, 0, 0] "Puru Puru Pack"

/-- Leave an effect in the mailbox. -/
def post (pack : Vibration) (time : UInt64) (effect : Effect) : Vibration :=
  { pack with mailbox := pack.mailbox.post time effect }

/-- The packet that carries an effect. -/
def packet (pack : Vibration) (effect : Effect) : Packet :=
  Packet.carrying .setCondition pack.address (Address.host pack.address.player)
    [FunctionSet.vibration.bits, effect.word]

/-- Give up a repetition when a newer effect is waiting. -/
def supersede (pack : Vibration) : Vibration :=
  if pack.mailbox.isPending then
    { pack with retry := none, attempts := 0 }
  else
    pack

/-- The effect to send at a given time: the queued one if it is due, else the
one to repeat, else a stop if nothing has been sent yet. -/
def next? (pack : Vibration) (now : UInt64) : Option Effect :=
  (pack.mailbox.due? now).or
    (pack.retry.or (if pack.first then some .stop else none))

/-- Submit an effect.  When the bus accepts it, it leaves the place it was
taken from. -/
def submit (pack : Vibration) (now : UInt64) (effect : Effect) :
    Endpoint Vibration := do
  match ← Endpoint.submit (pack.packet effect) true with
  | .ok handle =>
      Endpoint.trace "vibration scheduled" [("address", pack.address.text)]
      let queued :=
        if (pack.mailbox.due? now).isSome then none else pack.mailbox.queued
      return { pack with
        mailbox := { pack.mailbox with queued }
        inFlight := some (handle, effect)
        retry := none
        first := false }
  | .error refusal =>
      Endpoint.trace "vibration deferred"
        [("address", pack.address.text), ("error", refusal.message)]
      return pack

/-- Submit the effect that is to be sent at a given time, if there is one. -/
def attempt (pack : Vibration) (now : UInt64) : Endpoint Vibration :=
  let pack := pack.supersede
  match pack.next? now with
  | none => pure pack
  | some effect => pack.submit now effect

/-- One cycle: unless an exchange is under way, submit the next effect.  An
exchange the bus no longer knows is forgotten. -/
def task (pack : Vibration) (now : UInt64) : Endpoint Vibration := do
  match pack.inFlight with
  | none => pack.attempt now
  | some (handle, _) =>
      if ← Endpoint.isOutstanding handle then
        return pack
      else
        attempt { pack with inFlight := none } now

/-- The effect a transmission carries, when it is the one under way. -/
def owned? (pack : Vibration) (tx : Transmission) : Option Effect :=
  (pack.inFlight.filter fun (handle, _) => handle.id == tx.id).map Prod.snd

/-- An attempt failed: send the effect again, or give it up after the last
attempt. -/
def failed (pack : Vibration) (failure : Failure) (tx : Transmission) :
    Logged Vibration := do
  match pack.owned? tx with
  | none => return pack
  | some effect =>
      let attempts := pack.attempts + 1
      if attempts < maxAttempts then
        Logged.note .debug "vibration failed, retrying"
          [("address", pack.address.text), ("attempt", toString attempts)]
        return { pack with inFlight := none, attempts, retry := some effect }
      else
        Logged.note .warn "vibration abandoned"
          [ ("address", pack.address.text),
            ("write_failed", Log.flag failure.isWrite),
            ("read_failed", Log.flag failure.isRead) ]
        return { pack with
          inFlight := none
          attempts := 0
          mailbox := pack.mailbox.publish (.error (.transfer failure)) }

/-- An exchange succeeded: leave what the reply says in the mailbox. -/
def completed (pack : Vibration) (reply : Option Packet) (tx : Transmission) :
    Logged Vibration := do
  match pack.owned? tx with
  | none => return pack
  | some _ =>
      let result := interpret reply
      match result with
      | .error (.refused command) =>
          Logged.note .debug "vibration refused"
            [("address", pack.address.text), ("reply", command.name)]
      | _ => pure ()
      return { pack with
        inFlight := none
        attempts := 0
        mailbox := pack.mailbox.publish result }

instance : Peripheral Vibration where
  name _ := "vibration"
  address pack := pack.address
  functions _ := .vibration
  definition pack := pack.definitionWord
  info := info
  task := task
  failed := failed
  completed := completed

end Vibration

end MapleBus.Device
