import MapleBus.Packet.Frame

/-!
# Estimates of the time on the wire

The estimate for a frame is computed from its number of words alone, in words that are capped
at every sum and product.  The caps on the way come to one cap at the end, whatever the number
of words is.  No packet is long enough to reach it: its estimate is the time that the bytes of
its frame take, rounded up.
-/

namespace MapleBus

namespace WireTime

/-- The time that a number of bits takes with the sequences around them, in nanoseconds. -/
def nanosOfBits (bits : Nat) : Nat :=
  480 * (bits + 14)

variable {words more : Nat}

/-! ## One cap at the end -/

theorem totalBits_eq (words : Nat) :
    totalBits words = Saturating.word64 (8 * (4 * words + 5)) := by
  have expanded : ((words + 1) * 4 + 1) * 8 = 8 * (4 * words + 5) := by omega
  simp only [totalBits, Saturating.plus64_word64, Saturating.times64_word64, expanded]

theorem nanos_eq (words : Nat) :
    nanos words = Saturating.word64 (nanosOfBits (8 * (4 * words + 5))) := by
  rw [nanos, totalBits_eq, Saturating.plus64_word64, Saturating.times64_word64, Nat.mul_comm]
  rfl

/-- Rounding up does not lead out of the words. -/
theorem toNat_micros (words : Nat) :
    (micros words).toNat = ((nanos words).toNat + 999) / 1000 := by
  have small := (nanos words).toNat_lt
  have whole : (nanos words / 1000).toNat = (nanos words).toNat / 1000 :=
    UInt64.toNat_div (nanos words) 1000
  have divides : nanos words % 1000 = 0 ↔ (nanos words).toNat % 1000 = 0 := by
    rw [← UInt64.toNat_inj, UInt64.toNat_mod]
    rfl
  rw [micros]
  split
  · next even =>
      rw [divides] at even
      omega
  · next uneven =>
      rw [divides] at uneven
      -- A thousandth of a word leaves room for one more.
      have next : (nanos words / 1000 + 1).toNat = (nanos words).toNat / 1000 + 1 := by
        rw [UInt64.toNat_add, whole]
        exact Nat.mod_eq_of_lt (by change _ + 1 < _; omega)
      rw [next]
      omega

/-! ## More words take no less time -/

theorem totalBits_monotone (order : words ≤ more) : totalBits words ≤ totalBits more := by
  rw [totalBits_eq, totalBits_eq]
  exact Saturating.word64_monotone (by omega)

theorem nanos_monotone (order : words ≤ more) : nanos words ≤ nanos more := by
  rw [nanos_eq, nanos_eq]
  exact Saturating.word64_monotone (by simp only [nanosOfBits]; omega)

theorem micros_monotone (order : words ≤ more) : micros words ≤ micros more := by
  have longer : (nanos words).toNat ≤ (nanos more).toNat := nanos_monotone order
  rw [UInt64.le_iff_toNat_le, toNat_micros, toNat_micros]
  omega

/-- What the estimates for a frame of so many words are, in exact integers. -/
structure IsExact (words : Nat) : Prop where
  /-- The bits of a header word, the payload and a checksum byte, up to the largest word. -/
  bits : (totalBits words).toNat = min (8 * (4 * words + 5)) 0xFFFFFFFFFFFFFFFF
  /-- The nanoseconds that all of them take, up to the largest word. -/
  nanos : (nanos words).toNat = min (480 * (8 * (4 * words + 5) + 14)) 0xFFFFFFFFFFFFFFFF
  /-- The microseconds are these nanoseconds, rounded up. -/
  micros : (micros words).toNat =
    (min (480 * (8 * (4 * words + 5) + 14)) 0xFFFFFFFFFFFFFFFF + 999) / 1000
  /-- More words have no smaller estimates. -/
  monotone : ∀ more, words ≤ more →
    totalBits words ≤ totalBits more ∧ WireTime.nanos words ≤ WireTime.nanos more ∧
      WireTime.micros words ≤ WireTime.micros more

theorem isExact (words : Nat) : IsExact words where
  bits := by rw [totalBits_eq, Saturating.toNat_word64]
  nanos := by
    rw [nanos_eq, Saturating.toNat_word64]
    rfl
  micros := by
    rw [toNat_micros, nanos_eq, Saturating.toNat_word64]
    rfl
  monotone _ order := ⟨totalBits_monotone order, nanos_monotone order, micros_monotone order⟩

/-- At the end of the words all three estimates stop growing. -/
example : totalBits 0xFFFFFFFFFFFFFFFF = 0xFFFFFFFFFFFFFFFF ∧
    micros 0xFFFFFFFFFFFFFFFF = 18446744073709552 := by
  decide +kernel

end WireTime

namespace Packet

/-- The estimate for a packet is the time its frame takes, rounded up: no packet is so long that
its time would be capped. -/
theorem toNat_wireMicros (packet : Packet) :
    packet.wireMicros.toNat = (WireTime.nanosOfBits (8 * packet.encode.length) + 999) / 1000 := by
  have limit : packet.payload.words.length ≤ 255 := packet.payload.length_le
  have length : packet.encode.length = 4 * packet.payload.words.length + 5 := by
    rw [length_encode]
    simp only [encodedLength, frameLength, headerLength]
    omega
  rw [wireMicros, WireTime.toNat_micros, WireTime.nanos_eq, Saturating.toNat_word64, length,
    WireTime.nanosOfBits, Nat.min_eq_left (by omega)]

end Packet

/-- The estimates are exact up to the largest word for every number of words, and for every
packet they are those of the bytes that are really sent. -/
theorem WireTime.estimates_exact :
    (∀ words, WireTime.IsExact words) ∧
      ∀ packet : Packet, packet.wireMicros.toNat =
        (480 * (8 * packet.encode.length + 14) + 999) / 1000 :=
  ⟨WireTime.isExact, Packet.toNat_wireMicros⟩

end MapleBus
