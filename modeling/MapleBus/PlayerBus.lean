import MapleBus.Peripheral
import MapleBus.Settings

/-!
# A player's bus

The bus of one player joins its scheduler, its wire and the peripherals that
are plugged in: the main one first, then the expansions behind it by slot.  A
cycle settles what the wire reported, tells the owners, runs every peripheral
once in this order, and hands the pending transmission to the wire.
-/

namespace MapleBus

/-- How often in a row transmissions of the main peripheral failed. -/
structure FailureStreak where
  /-- The length at which a warning is due. -/
  threshold : UInt32
  length : UInt32 := 0
  deriving DecidableEq, Repr

namespace FailureStreak

/-- Another failure.  A warning is noted when the streak reaches the
threshold. -/
def extend (streak : FailureStreak) (address : Address) (failure : Failure) :
    Logged FailureStreak := do
  let length := Saturating.word32 (streak.length.toNat + 1)
  Logged.noteWhen (length == streak.threshold) .warn
    "primary peripheral keeps failing"
    [ ("address", address.text), ("consecutive", toString length.toNat),
      ("write_failed", Log.flag failure.isWrite),
      ("read_failed", Log.flag failure.isRead) ]
  return { streak with length }

/-- A success.  The end of a streak that reached the threshold is noted. -/
def finish (streak : FailureStreak) (address : Address) : Logged FailureStreak := do
  Logged.noteWhen (streak.threshold ≤ streak.length) .info
    "primary peripheral recovered"
    [("address", address.text), ("after", toString streak.length.toNat)]
  return { streak with length := 0 }

end FailureStreak

/-- A notice that a device was plugged in or unplugged. -/
inductive PlugEvent (P : Type) where
  | attached (peripheral : P)
  | detached (address : Address)

/-- The notice, spelled out. -/
def PlugEvent.text {P : Type} [Peripheral P] : PlugEvent P → String
  | attached peripheral =>
      s!"Attached(BusAddress({(Peripheral.address peripheral).raw.toNat}))"
  | detached address => s!"Detached(BusAddress({address.raw.toNat}))"

/-- The bus of one player, with peripherals of type `P` on a wire of type
`W`. -/
structure PlayerBus (P W : Type) where
  settings : Settings
  scheduler : Scheduler := {}
  wire : W
  /-- The peripherals that are plugged in, in attach order. -/
  peripherals : List P := []
  failures : FailureStreak

namespace PlayerBus

variable {P W : Type} [Peripheral P]

/-- A bus without peripherals, if the settings allow one. -/
def create (settings : Settings) (wire : W) : Except ConfigError (PlayerBus P W) := do
  settings.validate
  return {
    settings
    wire
    failures := { threshold := settings.failureWarnThreshold } }

/-! ## Looking -/

/-- The addresses in use, in task order. -/
def addresses (bus : PlayerBus P W) : List Address :=
  bus.peripherals.map Peripheral.address

/-- The peripheral that answers on an address. -/
def peripheral? (bus : PlayerBus P W) (address : Address) : Option P :=
  bus.peripherals.find? fun peripheral => Peripheral.address peripheral == address

/-- Name, address, functions and definition of every peripheral, a line
each. -/
def summary (bus : PlayerBus P W) : List String :=
  bus.peripherals.map fun peripheral =>
    (Peripheral.address peripheral).text ++ " " ++ Peripheral.name peripheral ++
      " function=" ++ (Peripheral.functions peripheral).text ++
      " definition=" ++ Text.Hex.marked 8 (Peripheral.definition peripheral).toNat

/-- The state of a bus, spelled out. -/
def dump (bus : PlayerBus P W) : String :=
  let addresses := bus.addresses.map fun address =>
    s!"BusAddress({address.raw.toNat})"
  "PlayerBus \x7b config: " ++ bus.settings.dump ++
    ", peripherals: [" ++ ", ".intercalate addresses ++
    s!"], failures: FailureTracker \x7b threshold: {bus.failures.threshold.toNat}" ++
    s!", consecutive: {bus.failures.length.toNat} \x7d, .. \x7d"

/-! ## Plugging -/

/-- Why a peripheral cannot be plugged in at an address, if it cannot. -/
def attachFault? (bus : PlayerBus P W) (address : Address) : Option PeripheralError :=
  if address.player ≠ bus.settings.playerIndex then
    some (.playerMismatch bus.settings.playerIndex address.player)
  else if !address.isPeripheral then
    some (.invalidAddress address.raw)
  else if bus.addresses.contains address then
    some (.addressInUse address.raw)
  else if !address.isMain && !bus.addresses.any Address.isMain then
    some (.noPrimary address.raw)
  else
    none

/-- Put a peripheral behind all those that come before it in attach order. -/
def insert (peripheral : P) (peripherals : List P) : List P :=
  let earlier (other : P) : Bool :=
    (Peripheral.address other).attachOrder < (Peripheral.address peripheral).attachOrder
  peripherals.takeWhile earlier ++ peripheral :: peripherals.dropWhile earlier

/-- Plug in a peripheral.  It runs from the next cycle on. -/
def attach (bus : PlayerBus P W) (peripheral : P) :
    Logged (Except PeripheralError (PlayerBus P W)) :=
  let address := Peripheral.address peripheral
  match bus.attachFault? address with
  | some fault => return .error fault
  | none => do
      Logged.note .info "peripheral attached"
        [ ("address", address.text), ("name", Peripheral.name peripheral),
          ("function", toString (Peripheral.functions peripheral).bits.toNat) ]
      return .ok { bus with peripherals := insert peripheral bus.peripherals }

/-- Cancel the pending work of peripherals that are being unplugged, one after
the other. -/
def cancelWork (scheduler : Scheduler) : List P → Logged Scheduler
  | [] => return scheduler
  | peripheral :: rest => do
      let address := Peripheral.address peripheral
      let (cancelled, scheduler) := scheduler.cancelByRecipient address
      Logged.note .info "peripheral detached"
        [ ("address", address.text), ("name", Peripheral.name peripheral),
          ("cancelled", toString cancelled) ]
      cancelWork scheduler rest

/-- Unplug the peripheral at an address and, with the main peripheral, every
expansion behind it.  Their pending work is cancelled; what is on the wire
already ends without an owner.  The result has the peripherals removed. -/
def detach (bus : PlayerBus P W) (address : Address) :
    Logged (Except PeripheralError (List P × PlayerBus P W)) :=
  if bus.addresses.contains address then do
    let leaves (peripheral : P) : Bool :=
      address.isMain || Peripheral.address peripheral == address
    let removed := bus.peripherals.filter leaves
    let scheduler ← cancelWork bus.scheduler removed
    return .ok (removed,
      { bus with
        scheduler
        peripherals := bus.peripherals.filter fun peripheral => !leaves peripheral
        failures :=
          if address.isMain then { bus.failures with length := 0 } else bus.failures })
  else
    return .error (.notAttached address.raw)

/-- Apply a plug event.  The result has the peripherals removed. -/
def handle (bus : PlayerBus P W) (event : PlugEvent P) :
    Logged (Except PeripheralError (List P × PlayerBus P W)) := do
  Logged.note .trace "usb event" [("event", event.text)]
  match event with
  | .attached peripheral =>
      let result ← bus.attach peripheral
      return result.map fun bus => ([], bus)
  | .detached address => bus.detach address

/-! ## Running -/

/-- Change the first peripheral at an address, if there is one, and tell
whether there was. -/
def change (address : Address) (update : P → Logged P) : List P → Logged (Bool × List P)
  | [] => return (false, [])
  | peripheral :: rest =>
      if Peripheral.address peripheral = address then do
        return (true, (← update peripheral) :: rest)
      else do
        let (found, rest) ← change address update rest
        return (found, peripheral :: rest)

/-- Account for the end of a transmission to the main peripheral. -/
def account (failures : FailureStreak) (recipient : Address) (status : Status) :
    Logged FailureStreak :=
  if recipient.isMain then
    match status.failure? with
    | some failure => failures.extend recipient failure
    | none => failures.finish recipient
  else
    return failures

/-- Tell a peripheral how one of its transmissions ended. -/
def conclude (peripheral : P) (tx : Transmission) : Logged P :=
  match tx.status.failure? with
  | some failure => Peripheral.failed peripheral failure tx
  | none => Peripheral.completed peripheral tx.reply? tx

/-- Deliver one event to the peripheral that answers on its recipient. -/
def deliverEvent (bus : PlayerBus P W) (event : Event) : Logged (PlayerBus P W) := do
  match event.kind with
  | .started =>
      match bus.scheduler.get? event.handle with
      | none => return bus
      | some tx =>
          let (_, peripherals) ←
            change event.recipient (Peripheral.started · tx) bus.peripherals
          return { bus with peripherals }
  | .failed | .completed =>
      let (released, scheduler) := bus.scheduler.release event.handle
      let bus := { bus with scheduler }
      match released with
      | none => return bus
      | some tx =>
          let failures ← account bus.failures event.recipient tx.status
          let (owned, peripherals) ←
            change event.recipient (conclude · tx) bus.peripherals
          Logged.noteWhen (!owned) .trace "released result with no owner"
            [("id", toString tx.id.toNat), ("recipient", event.recipient.text)]
          return { bus with failures, peripherals }

/-- Deliver events in order. -/
def deliverEvents (bus : PlayerBus P W) : List Event → Logged (PlayerBus P W)
  | [] => return bus
  | event :: rest => do
      let bus ← bus.deliverEvent event
      bus.deliverEvents rest

/-- Deliver every event that waits. -/
def deliver (bus : PlayerBus P W) : Logged (PlayerBus P W) :=
  deliverEvents { bus with scheduler := { bus.scheduler with events := [] } }
    bus.scheduler.events

/-- Signals arrive. -/
def hear {P W : Type} (bus : PlayerBus P W) (signals : List Signal) : PlayerBus P W :=
  { bus with scheduler := bus.scheduler.hear signals }

/-- Settle what the wire reported and tell of it. -/
def settle (bus : PlayerBus P W) : Logged (PlayerBus P W) := do
  let scheduler ← bus.scheduler.service
  deliver { bus with scheduler }

/-- Run one cycle of each peripheral in order. -/
def performTasks (now : UInt64) (traffic : Traffic) :
    List P → Logged (List P × Traffic)
  | [] => return ([], traffic)
  | peripheral :: rest => do
      let (peripheral, traffic) ← (Peripheral.task peripheral now).perform traffic
      let (rest, traffic) ← performTasks now traffic rest
      return (peripheral :: rest, traffic)

/-- Let the peripherals work.  The result has the signals still to come. -/
def work (bus : PlayerBus P W) (now : UInt64) (arrivals : List (List Signal)) :
    Logged (PlayerBus P W × List (List Signal)) := do
  let (peripherals, traffic) ←
    performTasks now { scheduler := bus.scheduler, arrivals } bus.peripherals
  return ({ bus with peripherals, scheduler := traffic.scheduler }, traffic.arrivals)

/-- Offer the pending transmission to the wire and tell of it. -/
def launch [Wire W] (bus : PlayerBus P W) : Logged (PlayerBus P W) := do
  let (_, scheduler, wire) ← bus.scheduler.dispatch bus.wire
  deliver { bus with scheduler, wire }

/-- One cycle of the bus.  A batch of signals arrives before the outcome is
harvested, one before each request, and one before the pending transmission is
offered. -/
def cycle [Wire W] (bus : PlayerBus P W) (now : UInt64) (arrivals : List (List Signal)) :
    Logged (PlayerBus P W) := do
  let bus ← (bus.hear (arrivals.headD [])).settle
  let (bus, later) ← bus.work now arrivals.tail
  (bus.hear (later.headD [])).launch

/-- One cycle of the bus that no signals reach meanwhile. -/
def task [Wire W] (bus : PlayerBus P W) (now : UInt64) : Logged (PlayerBus P W) :=
  bus.cycle now []

end PlayerBus

end MapleBus
