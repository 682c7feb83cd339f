import MapleBus.Word

/-!
# Vibration effects

An effect has a power, may ramp it down to one or up to the largest power, and
pulsates with a frequency `f` at which one cycle lasts `2 / (f + 1)` seconds.
Each step of a ramp takes the same number of cycles.  A timed effect is built
from the duration it should reach: as many cycles as cover it, and by default
the fastest pulsation with which the cycle counter still can.
-/

namespace MapleBus.Device.Vibration

/-- The strongest power. -/
def maxPower : UInt8 := 0x07

/-- The slowest pulsation. -/
def minFrequency : UInt8 := 0x07

/-- The fastest pulsation. -/
def maxFrequency : UInt8 := 0x3B

/-- The largest value of the cycle counter, which stands for one cycle
more. -/
def maxCycles : Nat := 0xFF

/-- How power changes in the course of an effect. -/
inductive Inclination where
  /-- In steps from the starting power to one. -/
  | rampDown
  | constant
  /-- In steps from the starting power to the largest. -/
  | rampUp
  deriving DecidableEq, Repr, Inhabited

namespace Inclination

def name : Inclination → String
  | rampDown => "RampDown"
  | constant => "Constant"
  | rampUp => "RampUp"

/-- The power steps of an effect that starts with `power`. -/
def steps (inclination : Inclination) (power : UInt8) : Nat :=
  match inclination with
  | constant => 1
  | rampDown => max power.toNat 1
  | rampUp => maxPower.toNat - power.toNat + 1

end Inclination

/-- The length of one cycle in microseconds. -/
def cycleMicros (frequency : UInt8) : Nat :=
  2000000 / (frequency.toNat + 1)

/-- A frequency brought into the valid range. -/
def clampFrequency (frequency : UInt8) : UInt8 :=
  max minFrequency (min frequency maxFrequency)

/-- The longest time in microseconds that `steps` power steps can last at a
frequency. -/
def reach (steps : Nat) (frequency : UInt8) : Nat :=
  cycleMicros frequency * (maxCycles + 1) * steps

/-- The valid frequencies, fastest first. -/
def frequencies : List UInt8 :=
  (List.range (maxFrequency.toNat - minFrequency.toNat + 1)).map fun slower =>
    UInt8.ofNat (maxFrequency.toNat - slower)

/-- The fastest frequency with which `steps` power steps can last `micros`,
or the slowest one when none can. -/
def fastestFor (steps micros : Nat) : UInt8 :=
  ((frequencies.find? fun frequency => micros ≤ reach steps frequency).getD
    minFrequency)

/-- What a vibration pack is asked to do. -/
structure Effect where
  power : UInt8
  inclination : Inclination
  frequency : UInt8
  /-- Cycles per power step, less one. -/
  cycles : UInt8
  /-- Whether the effect lasts until the next one. -/
  continuous : Bool
  deriving DecidableEq, Repr

namespace Effect

/-- The effect that ends whatever is running. -/
def stop : Effect where
  power := 0
  inclination := .constant
  frequency := minFrequency
  cycles := 0
  continuous := false

/-- Whether an effect ends whatever is running. -/
def isStop (effect : Effect) : Bool :=
  effect.power == 0

/-- An effect of about `millis` milliseconds.  Power and frequency are brought
into range; frequency zero asks for the fastest that covers the duration, and
power zero for a stop. -/
def pulse (power : UInt8) (inclination : Inclination) (frequency : UInt8)
    (millis : UInt32) : Effect :=
  let power := min power maxPower
  if power = 0 then
    stop
  else
    let steps := inclination.steps power
    let micros := millis.toNat * 1000
    let frequency :=
      if frequency = 0 then fastestFor steps micros else clampFrequency frequency
    let cycle := cycleMicros frequency
    let total := max ((micros + cycle - 1) / cycle) 1
    let perStep := (total + steps - 1) / steps
    { power
      inclination
      frequency
      cycles := UInt8.ofNat (min (perStep - 1) maxCycles)
      continuous := false }

/-- A constant effect that lasts until the next one.  Frequency zero asks for
the fastest pulsation. -/
def lasting (power frequency : UInt8) : Effect where
  power := max 1 (min power maxPower)
  inclination := .constant
  frequency := if frequency = 0 then maxFrequency else clampFrequency frequency
  cycles := 0
  continuous := true

/-- The byte of power and inclination.  A constant effect has its power in
the high half, a falling one too with the top bit set, and a rising one in the
low half with the fourth bit set. -/
def powerByte (effect : Effect) : UInt8 :=
  let power := effect.power &&& maxPower
  if power = 0 then
    0
  else
    match effect.inclination with
    | .constant => power <<< 4
    | .rampDown => (0x80 : UInt8) ||| (power <<< 4)
    | .rampUp => (0x08 : UInt8) ||| power

/-- The condition word: control, power, frequency and cycles from the high
byte down. -/
def word (effect : Effect) : UInt32 :=
  Word.ofBytes (if effect.continuous then 0x11 else 0x10) effect.powerByte
    effect.frequency effect.cycles

/-- The length of a timed effect in whole milliseconds. -/
def durationMillis (effect : Effect) : Nat :=
  if effect.isStop then
    0
  else
    (effect.cycles.toNat + 1) * effect.inclination.steps effect.power *
      cycleMicros effect.frequency / 1000

end Effect

end MapleBus.Device.Vibration
