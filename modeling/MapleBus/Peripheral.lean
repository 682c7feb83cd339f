import MapleBus.DeviceInfo
import MapleBus.Endpoint

/-!
# Peripherals

A peripheral is one function that answers on an address of a player's bus.  In
every cycle it runs one program against the scheduler, and it is told about
the transmissions addressed to it: when one goes out and how it ends.
-/

namespace MapleBus

/-- What a player's bus needs of a peripheral. -/
class Peripheral (P : Type) where
  /-- A short name. -/
  name (peripheral : P) : String
  /-- The address the peripheral answers on. -/
  address (peripheral : P) : Address
  /-- The functions it advertises. -/
  functions (peripheral : P) : FunctionSet
  /-- The definition word of its main function. -/
  definition (peripheral : P) : UInt32
  /-- How it describes itself. -/
  info (peripheral : P) : DeviceInfo
  /-- One cycle at a given time. -/
  task (peripheral : P) (now : UInt64) : Endpoint P
  /-- A transmission has been handed to the wire. -/
  started (peripheral : P) (_tx : Transmission) : Logged P := pure peripheral
  /-- A transmission ended without success. -/
  failed (peripheral : P) (_failure : Failure) (_tx : Transmission) : Logged P :=
    pure peripheral
  /-- A transmission ended with success and, if one was expected, a reply. -/
  completed (peripheral : P) (_reply : Option Packet) (_tx : Transmission) :
    Logged P := pure peripheral

end MapleBus
