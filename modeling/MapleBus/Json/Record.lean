import MapleBus.Device.Gamepad
import MapleBus.Json.Value
import MapleBus.Settings

/-!
# Records as JSON

The JSON forms of settings and gamepad states.  Written records are compact
and list every field in order.  In a read record of settings a missing field
has its default value; a gamepad state needs all its fields.
-/

namespace MapleBus.Json

/-- A JSON object of members in order. -/
def writeObject (members : List (String × String)) : String :=
  "\x7b" ++ ",".intercalate (members.map fun (name, value) =>
    "\"" ++ name ++ "\":" ++ value) ++ "\x7d"

/-- Read a field that has a default. -/
def fieldOr {α : Type} (default : α) (read? : Value → Option α) :
    Option Value → Option α
  | none => some default
  | some value => read? value

/-- Read a field that has to be there. -/
def field? {α : Type} (read? : Value → Option α) (value : Option Value) : Option α :=
  value.bind read?

/-- Read an eight-bit word. -/
def word8? (value : Value) : Option UInt8 :=
  (value.natural? 0xFF).map UInt8.ofNat

/-- Read a thirty-two-bit word. -/
def word32? (value : Value) : Option UInt32 :=
  (value.natural? 0xFFFFFFFF).map UInt32.ofNat

/-- Read a sixty-four-bit word. -/
def word64? (value : Value) : Option UInt64 :=
  (value.natural? 0xFFFFFFFFFFFFFFFF).map UInt64.ofNat

/-- Read report periods. -/
def timing? (value : Value) : Option Device.Timing := do
  let defaults : Device.Timing := {}
  match ← value.fields? ["report_period_us", "identify_period_us"] with
  | [reportPeriod, identifyPeriod] => do
      let reportPeriod ← fieldOr defaults.reportPeriod word64? reportPeriod
      let identifyPeriod ← fieldOr defaults.identifyPeriod word64? identifyPeriod
      return { reportPeriod, identifyPeriod }
  | _ => none

/-- Write report periods. -/
def writeTiming (timing : Device.Timing) : String :=
  writeObject
    [ ("report_period_us", toString timing.reportPeriod.toNat),
      ("identify_period_us", toString timing.identifyPeriod.toNat) ]

/-- Read settings. -/
def settings? (value : Value) : Option Settings := do
  let defaults : Settings := {}
  match ← value.fields? ["player_index", "timing", "failure_warn_threshold"] with
  | [playerIndex, timing, threshold] => do
      let playerIndex ← fieldOr defaults.playerIndex word8? playerIndex
      let timing ← fieldOr defaults.timing timing? timing
      let failureWarnThreshold ←
        fieldOr defaults.failureWarnThreshold word32? threshold
      return { playerIndex, timing, failureWarnThreshold }
  | _ => none

/-- Write settings. -/
def writeSettings (settings : Settings) : String :=
  writeObject
    [ ("player_index", toString settings.playerIndex.toNat),
      ("timing", writeTiming settings.timing),
      ("failure_warn_threshold", toString settings.failureWarnThreshold.toNat) ]

/-- Read a hat position by its name. -/
def hat? (value : Value) : Option Device.Hat :=
  value.choice?.bind Device.Hat.ofName?

/-- Write a hat position. -/
def writeHat (hat : Device.Hat) : String :=
  "\"" ++ hat.name ++ "\""

/-- Read a set of gamepad buttons. -/
def buttons? (value : Value) : Option Device.GamepadButtons :=
  (word32? value).map Device.GamepadButtons.mk

/-- Write a set of gamepad buttons. -/
def writeButtons (buttons : Device.GamepadButtons) : String :=
  toString buttons.bits.toNat

/-- Read the state of a gamepad. -/
def gamepad? (value : Value) : Option Device.Gamepad := do
  let names :=
    [ "buttons", "hat", "left_x", "left_y", "right_x", "right_y", "left_trigger",
      "right_trigger" ]
  match ← value.fields? names with
  | [buttons, hat, leftX, leftY, rightX, rightY, leftTrigger, rightTrigger] => do
      return {
        buttons := ← field? buttons? buttons
        hat := ← field? hat? hat
        leftX := ← field? word8? leftX
        leftY := ← field? word8? leftY
        rightX := ← field? word8? rightX
        rightY := ← field? word8? rightY
        leftTrigger := ← field? word8? leftTrigger
        rightTrigger := ← field? word8? rightTrigger }
  | _ => none

/-- Write the state of a gamepad. -/
def writeGamepad (pad : Device.Gamepad) : String :=
  writeObject
    [ ("buttons", writeButtons pad.buttons), ("hat", writeHat pad.hat),
      ("left_x", toString pad.leftX.toNat), ("left_y", toString pad.leftY.toNat),
      ("right_x", toString pad.rightX.toNat), ("right_y", toString pad.rightY.toNat),
      ("left_trigger", toString pad.leftTrigger.toNat),
      ("right_trigger", toString pad.rightTrigger.toNat) ]

end MapleBus.Json
