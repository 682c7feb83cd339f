import MapleBus.Bench.Registry
import MapleBus.Bench.ScriptedWire
import MapleBus.Device
import MapleBus.PlayerBus

/-!
# A player's bus on the bench

A player's bus over a scripted wire whose devices stay within reach by name,
whether they are plugged in, have been unplugged or were never accepted.  A
name means the device that was given it last.
-/

namespace MapleBus.Bench

/-- A device with a number that tells it from every other one. -/
structure Numbered where
  number : Nat
  device : Device

instance : Peripheral Numbered where
  name numbered := Peripheral.name numbered.device
  address numbered := Peripheral.address numbered.device
  functions numbered := Peripheral.functions numbered.device
  definition numbered := Peripheral.definition numbered.device
  info numbered := Peripheral.info numbered.device
  task numbered now :=
    Numbered.mk numbered.number <$> Peripheral.task numbered.device now
  started numbered tx :=
    Numbered.mk numbered.number <$> Peripheral.started numbered.device tx
  failed numbered failure tx :=
    Numbered.mk numbered.number <$> Peripheral.failed numbered.device failure tx
  completed numbered reply tx :=
    Numbered.mk numbered.number <$> Peripheral.completed numbered.device reply tx

/-- A player's bus and the devices around it. -/
structure PlayerRig where
  bus : PlayerBus Numbered ScriptedWire
  /-- The devices that are not plugged in. -/
  shelf : List Numbered := []
  /-- The numbers of the devices by name. -/
  names : Registry Nat := {}
  nextNumber : Nat := 0

namespace PlayerRig

/-- Change the wire. -/
def changeWire (rig : PlayerRig) (change : ScriptedWire → ScriptedWire) : PlayerRig :=
  { rig with bus := { rig.bus with wire := change rig.bus.wire } }

/-- Plug in a device, directly or by a plug event.  If it is refused, it stays
on the shelf. -/
def attach (rig : PlayerRig) (name : String) (device : Device) (byEvent : Bool) :
    Logged (Except PeripheralError Unit × PlayerRig) := do
  let numbered : Numbered := { number := rig.nextNumber, device }
  let rig :=
    { rig with
      names := rig.names.put name rig.nextNumber
      nextNumber := rig.nextNumber + 1 }
  let result ←
    if byEvent then
      Except.map Prod.snd <$> rig.bus.handle (.attached numbered)
    else
      rig.bus.attach numbered
  match result with
  | .ok bus => return (.ok (), { rig with bus })
  | .error fault => return (.error fault, { rig with shelf := numbered :: rig.shelf })

/-- Unplug the device at an address, directly or by a plug event, and tell how
many were unplugged. -/
def detach (rig : PlayerRig) (address : Address) (byEvent : Bool) :
    Logged (Except PeripheralError Nat × PlayerRig) := do
  let result ←
    if byEvent then rig.bus.handle (.detached address) else rig.bus.detach address
  match result with
  | .ok (removed, bus) =>
      return (.ok removed.length, { rig with bus, shelf := removed ++ rig.shelf })
  | .error fault => return (.error fault, rig)

/-- One cycle of the bus. -/
def task (rig : PlayerRig) (now : UInt64) : Logged PlayerRig := do
  let bus ← rig.bus.task now
  return { rig with bus }

/-- The device with a name. -/
def device? (rig : PlayerRig) (name : String) : Option Device := do
  let number ← rig.names.get? name
  let numbered ←
    (rig.bus.peripherals ++ rig.shelf).find? fun numbered => numbered.number == number
  return numbered.device

/-- Put a device in the place of the one with a name. -/
def replace (rig : PlayerRig) (name : String) (device : Device) : PlayerRig :=
  let renew (numbered : Numbered) : Numbered :=
    if rig.names.get? name == some numbered.number then
      { numbered with device }
    else
      numbered
  { rig with
    bus := { rig.bus with peripherals := rig.bus.peripherals.map renew }
    shelf := rig.shelf.map renew }

end PlayerRig

end MapleBus.Bench
