/-!
# Gamepads

The state of a generic gamepad: buttons named by position, a hat switch, two
sticks and two triggers.  Sticks rest at the middle of their range, triggers
at zero.
-/

namespace MapleBus.Device

/-- The position of a hat switch. -/
inductive Hat where
  | up
  | upRight
  | right
  | downRight
  | down
  | downLeft
  | left
  | upLeft
  | neutral
  deriving DecidableEq, Repr, Inhabited

namespace Hat

/-- All positions, clockwise from the top, with the resting one at the end. -/
def all : List Hat :=
  [up, upRight, right, downRight, down, downLeft, left, upLeft, neutral]

/-- The position with a given number: clockwise from the top, and at rest for
every number above seven. -/
def ofNumber (number : UInt8) : Hat :=
  all.getD number.toNat neutral

def name : Hat → String
  | up => "Up"
  | upRight => "UpRight"
  | right => "Right"
  | downRight => "DownRight"
  | down => "Down"
  | downLeft => "DownLeft"
  | left => "Left"
  | upLeft => "UpLeft"
  | neutral => "Neutral"

/-- The position with a given name. -/
def ofName? (name : String) : Option Hat :=
  all.find? fun hat => hat.name == name

def pressesUp : Hat → Bool
  | up | upRight | upLeft => true
  | _ => false

def pressesDown : Hat → Bool
  | down | downRight | downLeft => true
  | _ => false

def pressesLeft : Hat → Bool
  | left | upLeft | downLeft => true
  | _ => false

def pressesRight : Hat → Bool
  | right | upRight | downRight => true
  | _ => false

end Hat

/-- A set of gamepad buttons.  The buttons that devices look at have names. -/
structure GamepadButtons where
  bits : UInt32 := 0
  deriving DecidableEq, Repr, Inhabited

namespace GamepadButtons

def south : GamepadButtons := ⟨0x001⟩
def east : GamepadButtons := ⟨0x002⟩
def west : GamepadButtons := ⟨0x004⟩
def north : GamepadButtons := ⟨0x008⟩
def leftShoulder : GamepadButtons := ⟨0x010⟩
def rightShoulder : GamepadButtons := ⟨0x020⟩
def leftStick : GamepadButtons := ⟨0x040⟩
def start : GamepadButtons := ⟨0x100⟩

/-- Whether all of `other` is held. -/
def contains (buttons other : GamepadButtons) : Bool :=
  buttons.bits &&& other.bits == other.bits

/-- The buttons of either set. -/
def union (buttons other : GamepadButtons) : GamepadButtons :=
  ⟨buttons.bits ||| other.bits⟩

end GamepadButtons

/-- A snapshot of a gamepad. -/
structure Gamepad where
  buttons : GamepadButtons := {}
  hat : Hat := .neutral
  leftX : UInt8 := 0x80
  leftY : UInt8 := 0x80
  rightX : UInt8 := 0x80
  rightY : UInt8 := 0x80
  leftTrigger : UInt8 := 0
  rightTrigger : UInt8 := 0
  deriving DecidableEq, Repr

/-- The default snapshot is the gamepad at rest. -/
instance : Inhabited Gamepad :=
  ⟨{}⟩

end MapleBus.Device
