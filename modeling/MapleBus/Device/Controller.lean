import MapleBus.Device.Gamepad
import MapleBus.Device.Player
import MapleBus.Device.ReportLink
import MapleBus.Device.Source
import MapleBus.Peripheral

/-!
# Controllers

The standard controller reports buttons, two triggers and two sticks.  Buttons
are active-low on the wire.  A gamepad maps onto it by position: the face
buttons become A, B, X and Y, the shoulders C and Z, the left stick's button D.
The second direction pad has no counterpart and stays released.
-/

namespace MapleBus.Device

namespace Controller

/-- The definition word: every button, both triggers and both sticks. -/
def definition : UInt32 := 0x000F06FE

/-- The controls of a controller that can be pressed. -/
inductive Button where
  | z
  | y
  | x
  | d
  | up2
  | down2
  | left2
  | right2
  | c
  | b
  | a
  | start
  | up
  | down
  | left
  | right
  deriving DecidableEq, Repr

namespace Button

/-- The bit that stands for a control. -/
def position : Button → UInt16
  | z => 0
  | y => 1
  | x => 2
  | d => 3
  | up2 => 4
  | down2 => 5
  | left2 => 6
  | right2 => 7
  | c => 8
  | b => 9
  | a => 10
  | start => 11
  | up => 12
  | down => 13
  | left => 14
  | right => 15

/-- The set with one control. -/
def mask (button : Button) : UInt16 :=
  1 <<< button.position

/-- Every control, lowest bit first. -/
def all : List Button :=
  [z, y, x, d, up2, down2, left2, right2, c, b, a, start, up, down, left, right]

/-- Whether a gamepad presses a control. -/
def heldOn (pad : Gamepad) : Button → Bool
  | z => pad.buttons.contains .leftShoulder
  | y => pad.buttons.contains .north
  | x => pad.buttons.contains .west
  | d => pad.buttons.contains .leftStick
  | up2 | down2 | left2 | right2 => false
  | c => pad.buttons.contains .rightShoulder
  | b => pad.buttons.contains .east
  | a => pad.buttons.contains .south
  | start => pad.buttons.contains .start
  | up => pad.hat.pressesUp
  | down => pad.hat.pressesDown
  | left => pad.hat.pressesLeft
  | right => pad.hat.pressesRight

end Button

/-- Whether all controls of `other` are in a set of controls. -/
def contains (pressed other : UInt16) : Bool :=
  pressed &&& other == other

/-- What a controller reports. -/
structure Condition where
  /-- The controls that are pressed, one bit each. -/
  pressed : UInt16 := 0
  leftTrigger : UInt8 := 0
  rightTrigger : UInt8 := 0
  leftX : UInt8 := 0x80
  leftY : UInt8 := 0x80
  rightX : UInt8 := 0x80
  rightY : UInt8 := 0x80
  deriving DecidableEq, Repr, Inhabited

namespace Condition

/-- The condition a gamepad stands for. -/
def ofGamepad (pad : Gamepad) : Condition where
  pressed :=
    Button.all.foldl
      (fun pressed button =>
        if button.heldOn pad then pressed ||| button.mask else pressed) 0
  leftTrigger := pad.leftTrigger
  rightTrigger := pad.rightTrigger
  leftX := pad.leftX
  leftY := pad.leftY
  rightX := pad.rightX
  rightY := pad.rightY

/-- The word of buttons and triggers.  A pressed control is a clear bit. -/
def buttonWord (condition : Condition) : UInt32 :=
  let released := ~~~condition.pressed
  Word.ofBytes (UInt8.ofNat (released.toNat / 256)) (UInt8.ofNat released.toNat)
    condition.rightTrigger condition.leftTrigger

/-- The word of the four stick axes. -/
def stickWord (condition : Condition) : UInt32 :=
  Word.ofBytes condition.leftX condition.leftY condition.rightX condition.rightY

/-- The two condition words. -/
def toWords (condition : Condition) : List UInt32 :=
  [condition.buttonWord, condition.stickWord]

/-- The payload of a condition report. -/
def payload (condition : Condition) : List UInt32 :=
  FunctionSet.controller.bits :: condition.toWords

end Condition

end Controller

/-- A controller fed from gamepad snapshots. -/
structure Controller where
  player : Player
  source : Source Gamepad
  link : ReportLink
  version : String
  /-- The condition at the latest snapshot. -/
  condition : Controller.Condition := {}

namespace Controller

/-- A controller on the main address of its player. -/
def create (player : Player) (serial : String) (source : Source Gamepad)
    (timing : Timing) : Controller where
  player
  source
  link := { address := player.mainAddress, timing }
  version := versionText serial

/-- How every controller describes itself. -/
def info : DeviceInfo :=
  .describing .controller #v[definition, 0, 0] "Dreamcast Controller"

/-- One cycle: take a snapshot and report. -/
def task (controller : Controller) (now : UInt64) : Endpoint Controller := do
  let (pad, source) := controller.source.snapshot
  let condition := Condition.ofGamepad pad
  let (_, link) ←
    controller.link.poll now info controller.version condition.payload
  return { controller with source, condition, link }

/-- Take note of how a report ended. -/
def settle (controller : Controller) (tx : Transmission) : Logged Controller := do
  let link ← controller.link.settle tx
  return { controller with link }

instance : Peripheral Controller where
  name _ := "controller"
  address controller := controller.link.address
  functions _ := .controller
  definition _ := definition
  info _ := info
  task := task
  failed controller _ tx := controller.settle tx
  completed controller _ tx := controller.settle tx

end Controller

end MapleBus.Device
