import MapleBus.Device.Player
import MapleBus.Device.ReportLink
import MapleBus.Device.Source
import MapleBus.Peripheral

/-!
# Keyboards

A keyboard reports its modifiers, its lock lights and up to six pressed keys
by usage code, in the order of the snapshot.
-/

namespace MapleBus.Device

namespace Keyboard

/-- The definition word of a keyboard. -/
def definition : UInt32 := 0x80000502

/-- A snapshot of a keyboard, which is also what it reports. -/
structure Condition where
  /-- One bit per modifier, from the left control key to the right system
  key. -/
  modifiers : UInt8 := 0
  /-- One bit per lock light: number, capitals, scroll. -/
  leds : UInt8 := 0
  /-- The usage codes of pressed keys; zero stands for none. -/
  keys : Vector UInt8 6 := Vector.replicate 6 0
  deriving DecidableEq, Repr

/-- The default condition has nothing pressed. -/
instance : Inhabited Condition :=
  ⟨{}⟩

namespace Condition

/-- The two condition words.  Bytes fill each word from its low end. -/
def toWords (condition : Condition) : List UInt32 :=
  let keys := condition.keys
  [ Word.ofBytes keys[1] keys[0] condition.leds condition.modifiers,
    Word.ofBytes keys[5] keys[4] keys[3] keys[2] ]

/-- The payload of a condition report. -/
def payload (condition : Condition) : List UInt32 :=
  FunctionSet.keyboard.bits :: condition.toWords

end Condition

end Keyboard

/-- A keyboard fed from snapshots. -/
structure Keyboard where
  player : Player
  source : Source Keyboard.Condition
  link : ReportLink
  version : String
  /-- The condition at the latest snapshot. -/
  condition : Keyboard.Condition := {}

namespace Keyboard

/-- A keyboard at an address. -/
def create (address : Address) (player : Player) (serial : String)
    (source : Source Condition) (timing : Timing) : Keyboard where
  player
  source
  link := { address, timing }
  version := versionText serial

/-- How every keyboard describes itself. -/
def info : DeviceInfo :=
  .describing .keyboard #v[definition, 0, 0] "Keyboard"

/-- One cycle: take a snapshot and report. -/
def task (keyboard : Keyboard) (now : UInt64) : Endpoint Keyboard := do
  let (condition, source) := keyboard.source.snapshot
  let (_, link) ← keyboard.link.poll now info keyboard.version condition.payload
  return { keyboard with source, condition, link }

/-- Take note of how a report ended. -/
def settle (keyboard : Keyboard) (tx : Transmission) : Logged Keyboard := do
  let link ← keyboard.link.settle tx
  return { keyboard with link }

instance : Peripheral Keyboard where
  name _ := "keyboard"
  address keyboard := keyboard.link.address
  functions _ := .keyboard
  definition _ := definition
  info _ := info
  task := task
  failed keyboard _ tx := keyboard.settle tx
  completed keyboard _ tx := keyboard.settle tx

end Keyboard

end MapleBus.Device
