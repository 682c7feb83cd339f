import MapleBus.Device.Controller
import MapleBus.Device.Keyboard
import MapleBus.Device.Mouse
import MapleBus.Device.Recorder
import MapleBus.Device.Storage
import MapleBus.Device.Vibration

/-!
# Devices

The peripherals of this library as one type, so that a bus can hold them side
by side.
-/

namespace MapleBus

/-- Any of the devices. -/
inductive Device where
  | controller (device : Device.Controller)
  | mouse (device : Device.Mouse)
  | keyboard (device : Device.Keyboard)
  | storage (device : Device.Storage)
  | vibration (device : Device.Vibration)
  | recorder (device : Device.Recorder)

namespace Device

/-- Use a device as the peripheral it is.  The second argument of `use` makes
a device of that peripheral again. -/
def asPeripheral {β : Type} (device : Device)
    (use : {P : Type} → [Peripheral P] → P → (P → Device) → β) : β :=
  match device with
  | controller device => use device controller
  | mouse device => use device mouse
  | keyboard device => use device keyboard
  | storage device => use device storage
  | vibration device => use device vibration
  | recorder device => use device recorder

instance : Peripheral Device where
  name device := device.asPeripheral fun inner _ => Peripheral.name inner
  address device := device.asPeripheral fun inner _ => Peripheral.address inner
  functions device := device.asPeripheral fun inner _ => Peripheral.functions inner
  definition device := device.asPeripheral fun inner _ => Peripheral.definition inner
  info device := device.asPeripheral fun inner _ => Peripheral.info inner
  task device now :=
    device.asPeripheral fun inner outer => outer <$> Peripheral.task inner now
  started device tx :=
    device.asPeripheral fun inner outer => outer <$> Peripheral.started inner tx
  failed device failure tx :=
    device.asPeripheral fun inner outer => outer <$> Peripheral.failed inner failure tx
  completed device reply tx :=
    device.asPeripheral fun inner outer => outer <$> Peripheral.completed inner reply tx

end Device

end MapleBus
