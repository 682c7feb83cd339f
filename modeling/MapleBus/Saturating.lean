/-!
# Saturating arithmetic

Quantities that a device keeps in a fixed width are brought into range by moving
to the nearest end.  Capping once at the end gives the same value as capping
after every sum and product of non-negative terms.
-/

namespace MapleBus.Saturating

/-- The nearest thirty-two-bit word. -/
def word32 (value : Nat) : UInt32 :=
  UInt32.ofNat (min value 0xFFFFFFFF)

/-- The nearest sixty-four-bit word. -/
def word64 (value : Nat) : UInt64 :=
  UInt64.ofNat (min value 0xFFFFFFFFFFFFFFFF)

/-- The sum of a word and a number, as the nearest word. -/
def plus64 (word : UInt64) (more : Nat) : UInt64 :=
  word64 (word.toNat + more)

/-- The product of a word and a number, as the nearest word. -/
def times64 (word : UInt64) (factor : Nat) : UInt64 :=
  word64 (word.toNat * factor)

/-- The nearest integer between two bounds. -/
def between (low high value : Int) : Int :=
  max low (min high value)

/-- The nearest signed thirty-two-bit integer. -/
def signed32 (value : Int) : Int :=
  between (-0x80000000) 0x7FFFFFFF value

@[simp]
theorem toNat_word32 (value : Nat) :
    (word32 value).toNat = min value 0xFFFFFFFF := by
  simp only [word32, UInt32.toNat_ofNat']
  omega

@[simp]
theorem word32_toNat (word : UInt32) : word32 word.toNat = word := by
  have small := word.toNat_lt
  apply UInt32.toNat_inj.mp
  rw [toNat_word32]
  omega

/-- Capping once more on the way changes nothing. -/
theorem word32_succ (value : Nat) : word32 ((word32 value).toNat + 1) = word32 (value + 1) := by
  apply UInt32.toNat_inj.mp
  simp only [toNat_word32]
  omega

@[simp]
theorem toNat_word64 (value : Nat) :
    (word64 value).toNat = min value 0xFFFFFFFFFFFFFFFF := by
  simp only [word64, UInt64.toNat_ofNat']
  omega

/-- A sum may be capped after one of its terms was. -/
theorem word64_add (first second : Nat) :
    word64 (first + (word64 second).toNat) = word64 (first + second) := by
  apply UInt64.toNat_inj.mp
  simp only [toNat_word64]
  omega

/-- A product may be capped after one of its factors was: a factor that is not zero makes the
product at least as large as the other. -/
theorem word64_mul (first second : Nat) :
    word64 (first * (word64 second).toNat) = word64 (first * second) := by
  apply UInt64.toNat_inj.mp
  simp only [toNat_word64]
  rcases Nat.eq_zero_or_pos first with rfl | positive
  · simp
  · rcases Nat.le_total second 0xFFFFFFFFFFFFFFFF with small | large
    · rw [Nat.min_eq_left small]
    · have capped := Nat.le_mul_of_pos_left 0xFFFFFFFFFFFFFFFF positive
      have exact_ := Nat.mul_le_mul_left first large
      rw [Nat.min_eq_right large]
      omega

/-- A capped word plus a number is the exact sum, capped. -/
theorem plus64_word64 (value more : Nat) :
    plus64 (word64 value) more = word64 (value + more) := by
  rw [plus64, Nat.add_comm, word64_add, Nat.add_comm]

/-- A capped word times a number is the exact product, capped. -/
theorem times64_word64 (value factor : Nat) :
    times64 (word64 value) factor = word64 (value * factor) := by
  rw [times64, Nat.mul_comm, word64_mul, Nat.mul_comm]

/-- A larger number has no smaller nearest word. -/
theorem word64_monotone {first second : Nat} (order : first ≤ second) :
    word64 first ≤ word64 second := by
  rw [UInt64.le_iff_toNat_le, toNat_word64, toNat_word64]
  omega

end MapleBus.Saturating
