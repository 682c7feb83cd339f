import MapleBus.Cadence
import Mathlib.Order.Bounds.Basic

/-!
# Deadlines on a grid

A grid starts at an offset and repeats with a period, in exact integers and without end.
The next deadline is the first instant of the grid that is still ahead, as long as a word
can hold it.  It is computed in words, and every sum and product on the way is capped by
itself: no cap on the way moves a deadline off its grid.
-/

namespace MapleBus.Cadence

/-- The instants of the grid that are still ahead. -/
def ahead (now period offset : UInt64) : Set Nat :=
  {instant | now.toNat < instant ∧ ∃ count, instant = offset.toNat + count * period.toNat}

/-- The deadline when every sum and product is capped by itself. -/
def nextStepwise (now period offset : UInt64) : UInt64 :=
  if now < offset then
    offset
  else if period = 0 then
    Saturating.word64 (now.toNat + 1)
  else
    let elapsed := Saturating.word64 (now.toNat - offset.toNat)
    let periods := Saturating.word64 ((elapsed / period).toNat + 1)
    let distance := Saturating.word64 (period.toNat * periods.toNat)
    Saturating.word64 (offset.toNat + distance.toNat)

/-- The first instant of the grid after `now`, in exact integers. -/
def first (now period offset : UInt64) : Nat :=
  if now < offset then
    offset.toNat
  else
    offset.toNat + period.toNat * ((now.toNat - offset.toNat) / period.toNat + 1)

variable {now later period offset : UInt64}

theorem toNat_pos_of_ne_zero (repeats : period ≠ 0) : 0 < period.toNat := by
  apply Nat.pos_of_ne_zero
  intro zero
  exact repeats (UInt64.toNat_inj.mp zero)

/-- Capping every sum and product by itself gives what capping once gives. -/
theorem nextStepwise_eq (now period offset : UInt64) :
    nextStepwise now period offset = next now period offset := by
  have elapsed : (Saturating.word64 (now.toNat - offset.toNat)).toNat =
      now.toNat - offset.toNat := by
    have small := now.toNat_lt
    rw [Saturating.toNat_word64]
    omega
  simp only [nextStepwise, next, Saturating.word64_add, Saturating.word64_mul,
    UInt64.toNat_div, elapsed]

/-! ## The grid -/

/-- No instant of the grid between `now` and the first one is passed over. -/
theorem isLeast_first (repeats : period ≠ 0) :
    IsLeast (ahead now period offset) (first now period offset) := by
  have width := toNat_pos_of_ne_zero repeats
  by_cases waits : now < offset
  · rw [first, if_pos waits]
    constructor
    · exact ⟨waits, 0, by rw [Nat.zero_mul, Nat.add_zero]⟩
    · rintro instant ⟨-, count, rfl⟩
      exact Nat.le_add_right _ _
  · have started : offset.toNat ≤ now.toNat := UInt64.not_lt.mp waits
    have beyond := Nat.lt_mul_div_succ (now.toNat - offset.toNat) width
    rw [first, if_neg waits]
    constructor
    · refine ⟨by omega, (now.toNat - offset.toNat) / period.toNat + 1, ?_⟩
      rw [Nat.mul_comm]
    · rintro instant ⟨after, count, rfl⟩
      have passed : (now.toNat - offset.toNat) / period.toNat < count := by
        rw [Nat.div_lt_iff_lt_mul width]
        omega
      have least : period.toNat * ((now.toNat - offset.toNat) / period.toNat + 1) ≤
          period.toNat * count := Nat.mul_le_mul_left _ passed
      rw [Nat.mul_comm count]
      omega

/-- With a period, the deadline is the first instant of the grid, capped. -/
theorem toNat_next (repeats : period ≠ 0) :
    (next now period offset).toNat = min (first now period offset) 0xFFFFFFFFFFFFFFFF := by
  by_cases waits : now < offset
  · have small := offset.toNat_lt
    rw [next, first, if_pos waits, if_pos waits]
    omega
  · rw [next, first, if_neg waits, if_neg waits, if_neg repeats, Saturating.toNat_word64]

/-- Without a period, the deadline is the offset or the instant after `now`. -/
theorem toNat_next_zero (now offset : UInt64) :
    (next now 0 offset).toNat =
      if now < offset then offset.toNat else min (now.toNat + 1) 0xFFFFFFFFFFFFFFFF := by
  rw [next]
  split
  · rfl
  · rw [if_pos rfl, Saturating.toNat_word64]

/-- As time goes on, fewer instants of the grid are ahead. -/
theorem ahead_subset (onward : now ≤ later) :
    ahead later period offset ⊆ ahead now period offset := by
  rintro instant ⟨after, onGrid⟩
  exact ⟨Nat.lt_of_le_of_lt onward after, onGrid⟩

/-! ## Deadlines -/

/-- What the deadline after an instant is. -/
structure IsDeadline (now period offset deadline : UInt64) : Prop where
  /-- It is the first instant of the grid that is ahead, if a word can hold that instant, and
  the largest word otherwise. -/
  periodic : period ≠ 0 → ∃ instant, IsLeast (ahead now period offset) instant ∧
    deadline.toNat = if instant < 0x10000000000000000 then instant else 0xFFFFFFFFFFFFFFFF
  /-- Without a period, it is the offset while that is ahead, and the next instant after. -/
  aperiodic : period = 0 →
    deadline.toNat =
      if now < offset then offset.toNat else min (now.toNat + 1) 0xFFFFFFFFFFFFFFFF
  /-- While there is a later instant, the deadline is ahead. -/
  advances : now.toNat < 0xFFFFFFFFFFFFFFFF → now < deadline
  /-- A later instant has no earlier deadline. -/
  monotone : ∀ later, now ≤ later → deadline ≤ next later period offset
  /-- The caps on the way are without effect. -/
  stepwise : deadline = nextStepwise now period offset

theorem next_advances (early : now.toNat < 0xFFFFFFFFFFFFFFFF) :
    now < next now period offset := by
  rw [UInt64.lt_iff_toNat_lt]
  by_cases repeats : period = 0
  · rw [repeats, toNat_next_zero]
    split
    · assumption
    · omega
  · have beyond : now.toNat < first now period offset := (isLeast_first repeats).1.1
    rw [toNat_next repeats]
    omega

theorem next_monotone (onward : now ≤ later) :
    next now period offset ≤ next later period offset := by
  have passes : now.toNat ≤ later.toNat := onward
  rw [UInt64.le_iff_toNat_le]
  by_cases repeats : period = 0
  · have small := offset.toNat_lt
    rw [repeats, toNat_next_zero, toNat_next_zero]
    simp only [UInt64.lt_iff_toNat_lt]
    split <;> split <;> omega
  · have order : first now period offset ≤ first later period offset :=
      (isLeast_first repeats).mono (isLeast_first repeats) (ahead_subset onward)
    rw [toNat_next repeats, toNat_next repeats]
    omega

/-- Whatever the instant, the period and the offset are, the next deadline is on the grid and
ahead, and the first such one, up to the end of the words. -/
theorem next_isDeadline (now period offset : UInt64) :
    IsDeadline now period offset (next now period offset) where
  periodic := by
    intro repeats
    refine ⟨first now period offset, isLeast_first repeats, ?_⟩
    rw [toNat_next repeats]
    split <;> omega
  aperiodic := by
    rintro rfl
    exact toNat_next_zero now offset
  advances := next_advances
  monotone := fun _ => next_monotone
  stepwise := (nextStepwise_eq now period offset).symm

/-- The last deadline that a word can hold is followed by the largest word. -/
example : next 0xFFFFFFFFFFFFFFFE 0xFFFFFFFFFFFFFFFD 1 = 0xFFFFFFFFFFFFFFFF := by
  decide +kernel

end MapleBus.Cadence
