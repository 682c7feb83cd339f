import MapleBus.Device.Player
import MapleBus.Device.ReportLink
import MapleBus.Device.Source
import MapleBus.Peripheral
import MapleBus.Saturating

/-!
# Mice

A mouse reports three buttons and the motion since its last report.  One
report carries a bounded share of the motion on each axis; what exceeds it
waits for the next one.  The share of a report is held until the report ends
and is added back when it failed.
-/

namespace MapleBus.Device

namespace Mouse

/-- The definition word: three buttons, two directions and a wheel. -/
def definition : UInt32 := 0x000E0700

/-- The value of an axis at rest. -/
def axisCenter : UInt16 := 0x200

/-- The largest motion one report can carry in either direction. -/
def axisRange : Int := 0x1FF

/-- A set of mouse buttons. -/
structure Buttons where
  bits : UInt8 := 0
  deriving DecidableEq, Repr, Inhabited

namespace Buttons

def left : Buttons := ⟨0x01⟩
def right : Buttons := ⟨0x02⟩
def middle : Buttons := ⟨0x04⟩

/-- Whether all of `other` is held. -/
def contains (buttons other : Buttons) : Bool :=
  buttons.bits &&& other.bits == other.bits

end Buttons

/-- Motion on the three axes, each within a signed thirty-two-bit range. -/
structure Motion where
  dx : Int := 0
  dy : Int := 0
  wheel : Int := 0
  deriving DecidableEq, Repr, Inhabited

namespace Motion

/-- Apply a function of two numbers axis by axis and keep the results in
range. -/
def combine (f : Int → Int → Int) (first second : Motion) : Motion where
  dx := Saturating.signed32 (f first.dx second.dx)
  dy := Saturating.signed32 (f first.dy second.dy)
  wheel := Saturating.signed32 (f first.wheel second.wheel)

def add (first second : Motion) : Motion :=
  combine (· + ·) first second

def sub (first second : Motion) : Motion :=
  combine (· - ·) first second

/-- The part of a motion that one report can carry. -/
def share (motion : Motion) : Motion where
  dx := Saturating.between (-axisRange) axisRange motion.dx
  dy := Saturating.between (-axisRange) axisRange motion.dy
  wheel := Saturating.between (-axisRange) axisRange motion.wheel

end Motion

/-- A snapshot: the buttons held and the motion since the previous one. -/
structure Snapshot where
  buttons : Buttons := {}
  motion : Motion := {}
  deriving DecidableEq, Repr, Inhabited

/-- What a mouse reports. -/
structure Condition where
  buttons : Buttons := {}
  /-- Horizontal, vertical and wheel motion, then five unused axes. -/
  axes : Vector UInt16 8 := Vector.replicate 8 axisCenter
  deriving DecidableEq, Repr, Inhabited

/-- The value of an axis that carries as much of a motion as it can. -/
def axisValue (delta : Int) : UInt16 :=
  UInt16.ofNat (axisCenter.toNat + Saturating.between (-axisRange) axisRange delta).toNat

namespace Condition

/-- The condition with given buttons and as much motion as one report can
carry. -/
def ofMotion (buttons : Buttons) (motion : Motion) : Condition where
  buttons
  axes :=
    #v[ axisValue motion.dx, axisValue motion.dy, axisValue motion.wheel, axisCenter,
      axisCenter, axisCenter, axisCenter, axisCenter ]

/-- The word of buttons.  A pressed button is a clear bit. -/
def buttonWord (condition : Condition) : UInt32 :=
  let pressed (button : Buttons) (mask : UInt32) : UInt32 :=
    if condition.buttons.contains button then mask else 0
  0xFF &&& ~~~(pressed .right 0x02 ||| pressed .left 0x04 ||| pressed .middle 0x08)

/-- The word of two axes, the first one in its low half. -/
def axisPair (low high : UInt16) : UInt32 :=
  UInt32.ofNat (high.toNat * 0x10000 + low.toNat)

/-- The payload of a condition report. -/
def payload (condition : Condition) : List UInt32 :=
  let axes := condition.axes
  [ FunctionSet.mouse.bits, condition.buttonWord, axisPair axes[0] axes[1],
    axisPair axes[2] axes[3], axisPair axes[4] axes[5], axisPair axes[6] axes[7] ]

end Condition

end Mouse

/-- A mouse fed from relative motion. -/
structure Mouse where
  player : Player
  source : Source Mouse.Snapshot
  link : ReportLink
  version : String
  buttons : Mouse.Buttons := {}
  /-- The motion no report has carried yet. -/
  motion : Mouse.Motion := {}
  /-- The identifier of the condition report accepted last and the motion it
  carries, until the report ends. -/
  inFlight : Option (UInt32 × Mouse.Motion) := none

namespace Mouse

/-- A mouse at an address. -/
def create (address : Address) (player : Player) (serial : String)
    (source : Source Snapshot) (timing : Timing) : Mouse where
  player
  source
  link := { address, timing }
  version := versionText serial

/-- How every mouse describes itself. -/
def info : DeviceInfo :=
  .describing .mouse #v[definition, 0, 0] "Dreamcast Mouse"

/-- The condition that the next report would carry. -/
def condition (mouse : Mouse) : Condition :=
  Condition.ofMotion mouse.buttons mouse.motion

/-- One cycle: collect the motion of a snapshot and report.  When the bus
accepts a condition report, its share of the motion is set apart. -/
def task (mouse : Mouse) (now : UInt64) : Endpoint Mouse := do
  let (snapshot, source) := mouse.source.snapshot
  let mouse :=
    { mouse with
      source
      buttons := snapshot.buttons
      motion := mouse.motion.add snapshot.motion }
  let (accepted, link) ←
    mouse.link.poll now info mouse.version mouse.condition.payload
  let mouse := { mouse with link }
  match accepted, link.outstanding with
  | some .condition, some handle =>
      let share := mouse.motion.share
      return { mouse with
        motion := mouse.motion.sub share
        inFlight := some (handle.id, share) }
  | _, _ => return mouse

/-- Whether a transmission is the condition report under way. -/
def owns (mouse : Mouse) (tx : Transmission) : Bool :=
  mouse.inFlight.any fun (id, _) => id == tx.id

/-- A report failed: its share of the motion is added back. -/
def failed (mouse : Mouse) (tx : Transmission) : Logged Mouse := do
  let mouse :=
    match mouse.inFlight with
    | some (id, share) =>
        if id = tx.id then
          { mouse with motion := mouse.motion.add share, inFlight := none }
        else
          mouse
    | none => mouse
  let link ← mouse.link.settle tx
  return { mouse with link }

/-- A report succeeded: its share of the motion is done with. -/
def completed (mouse : Mouse) (tx : Transmission) : Logged Mouse := do
  let mouse := if mouse.owns tx then { mouse with inFlight := none } else mouse
  let link ← mouse.link.settle tx
  return { mouse with link }

instance : Peripheral Mouse where
  name _ := "mouse"
  address mouse := mouse.link.address
  functions _ := .mouse
  definition _ := definition
  info _ := info
  task := task
  failed mouse _ tx := mouse.failed tx
  completed mouse _ tx := mouse.completed tx

end Mouse

end MapleBus.Device
