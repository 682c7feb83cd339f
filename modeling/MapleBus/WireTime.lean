import MapleBus.Saturating

/-!
# Time on the wire

The bus clocks one bit every 480 nanoseconds.  A frame of `n` payload words is
a header word, the payload and a checksum byte, and pays for a fixed start and
end sequence besides.  Times are sixty-four-bit words, and every sum and product
on the way to them is capped by itself.
-/

namespace MapleBus.WireTime

/-- Nanoseconds per bit. -/
def nanosPerBit : Nat := 480

/-- Microseconds spent confirming that the line is idle before a write. -/
def openLineCheckMicros : Nat := 10

/-- Microseconds within which a device must begin its reply. -/
def responseTimeoutMicros : Nat := 500

/-- Microseconds allowed for receiving a complete reply. -/
def defaultReadTimeoutMicros : Nat := 4000

/-- Bits of the start and end sequences around a frame. -/
def framingOverheadBits : Nat := 14

/-- Bits in a frame of `words` payload words. -/
def totalBits (words : Nat) : UInt64 :=
  let withHeader := Saturating.plus64 (Saturating.word64 words) 1
  let bytes := Saturating.plus64 (Saturating.times64 withHeader 4) 1
  Saturating.times64 bytes 8

/-- Nanoseconds to clock out a frame of `words` payload words. -/
def nanos (words : Nat) : UInt64 :=
  Saturating.times64 (Saturating.plus64 (totalBits words) framingOverheadBits) nanosPerBit

/-- The time to clock out a frame of `words` payload words, rounded up to
whole microseconds. -/
def micros (words : Nat) : UInt64 :=
  let whole := nanos words / 1000
  if nanos words % 1000 = 0 then whole else whole + 1

end MapleBus.WireTime
