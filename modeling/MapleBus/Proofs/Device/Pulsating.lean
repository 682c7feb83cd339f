import MapleBus.Device.Vibration.Effect
import Mathlib.Algebra.Order.Floor.Div
import Mathlib.Order.Bounds.Basic

/-!
# Effects cover their duration

A timed effect repeats a number of cycles in each of its power steps.  The number it needs
is a duration divided twice, by the length of a cycle and by the number of steps, and
rounded up twice; it is the least number that covers the duration.  The counter of an
effect stops at its end, and the fastest pulsation is looked for among those with which
the counter still suffices.
-/

namespace MapleBus.Device.Vibration

/-! ## Cycles -/

/-- The cycles that each of some power steps needs in order to last, less one. -/
def neededCycles (micros cycle steps : Nat) : Nat :=
  (max ((micros + cycle - 1) / cycle) 1 + steps - 1) / steps - 1

variable {micros cycle steps count : Nat} {frequency other : UInt8} {power : UInt8}
  {inclination : Inclination} {millis : UInt32}

/-- Both divisions together leave the least number of cycles that covers the time. -/
theorem neededCycles_le_iff (lasts : 0 < cycle) (stepped : 0 < steps) :
    neededCycles micros cycle steps ≤ count ↔ micros ≤ (count + 1) * steps * cycle := by
  have anyway : 1 ≤ (count + 1) * steps := Nat.mul_pos (Nat.succ_pos count) stepped
  calc
    neededCycles micros cycle steps ≤ count
        ↔ max (micros ⌈/⌉ cycle) 1 ⌈/⌉ steps ≤ count + 1 := by
          rw [neededCycles, Nat.sub_le_iff_le_add, Nat.ceilDiv_eq_add_pred_div,
            Nat.ceilDiv_eq_add_pred_div]
    _ ↔ max (micros ⌈/⌉ cycle) 1 ≤ (count + 1) * steps := by
          rw [ceilDiv_le_iff_le_mul stepped, Nat.mul_comm]
    _ ↔ micros ⌈/⌉ cycle ≤ (count + 1) * steps := by
          rw [max_le_iff, and_iff_left anyway]
    _ ↔ micros ≤ (count + 1) * steps * cycle := by
          rw [ceilDiv_le_iff_le_mul lasts, Nat.mul_comm]

/-! ## Pulsations -/

theorem cycleMicros_pos (frequency : UInt8) : 0 < cycleMicros frequency := by
  have small := frequency.toNat_lt
  apply Nat.div_pos
  · omega
  · omega

theorem cycleMicros_le (frequency : UInt8) : cycleMicros frequency ≤ 2000000 :=
  Nat.div_le_self _ _

theorem steps_pos (inclination : Inclination) (power : UInt8) : 0 < inclination.steps power := by
  cases inclination with
  | constant => exact Nat.one_pos
  | rampDown => exact Nat.le_max_right _ _
  | rampUp => exact Nat.succ_pos _

theorem steps_le (inclination : Inclination) (strong : 0 < power) (weak : power ≤ maxPower) :
    inclination.steps power ≤ 7 := by
  have atLeast : 0 < power.toNat := strong
  have atMost : power.toNat ≤ 7 := weak
  have largest : maxPower.toNat = 7 := rfl
  cases inclination with
  | constant => exact Nat.le_add_left 1 6
  | rampDown =>
      simp only [Inclination.steps]
      omega
  | rampUp =>
      simp only [Inclination.steps]
      omega

/-- A slower pulsation lasts at least as long. -/
theorem reach_antitone (steps : Nat) (slower : frequency ≤ other) :
    reach steps other ≤ reach steps frequency := by
  have order : frequency.toNat ≤ other.toNat := slower
  have cycles : cycleMicros other ≤ cycleMicros frequency :=
    Nat.div_le_div_left (Nat.succ_le_succ order) (Nat.succ_pos _)
  exact Nat.mul_le_mul_right _ (Nat.mul_le_mul_right _ cycles)

theorem mem_frequencies_iff :
    frequency ∈ frequencies ↔ minFrequency ≤ frequency ∧ frequency ≤ maxFrequency := by
  have slowest : minFrequency.toNat = 7 := rfl
  have fastest : maxFrequency.toNat = 59 := rfl
  rw [UInt8.le_iff_toNat_le, UInt8.le_iff_toNat_le]
  simp only [frequencies, List.mem_map, List.mem_range, slowest, fastest]
  constructor
  · rintro ⟨less, inside, rfl⟩
    rw [UInt8.toNat_ofNat']
    omega
  · rintro ⟨atLeast, atMost⟩
    refine ⟨59 - frequency.toNat, by omega, ?_⟩
    apply UInt8.toNat_inj.mp
    rw [UInt8.toNat_ofNat']
    omega

/-- The valid frequencies are listed downwards. -/
theorem pairwise_frequencies : frequencies.Pairwise (· > ·) := by
  decide +kernel

/-- The first of the listed frequencies with a property is the greatest one with it. -/
theorem isGreatest_of_find? {suits : UInt8 → Bool}
    (found : frequencies.find? suits = some frequency) :
    IsGreatest {other | other ∈ frequencies ∧ suits other = true} frequency := by
  refine ⟨⟨List.mem_of_find?_eq_some found, List.find?_some found⟩, ?_⟩
  rintro other ⟨valid, fits⟩
  -- Those with the property are listed downwards too, and this one is the head of them.
  obtain ⟨rest, fitting⟩ : ∃ rest, frequencies.filter suits = frequency :: rest := by
    rw [← List.head?_filter, List.head?_eq_some_iff] at found
    exact found
  have downwards := pairwise_frequencies.filter suits
  have listed : other ∈ frequencies.filter suits := List.mem_filter.mpr ⟨valid, fits⟩
  rw [fitting, List.pairwise_cons] at downwards
  rw [fitting] at listed
  rcases List.mem_cons.mp listed with rfl | later
  · exact UInt8.le_refl other
  · exact UInt8.le_of_lt (downwards.1 other later)

theorem reach_eq (steps : Nat) (frequency : UInt8) :
    reach steps frequency = 256 * steps * cycleMicros frequency := by
  calc
    reach steps frequency
        = cycleMicros frequency * (256 * steps) := Nat.mul_assoc _ _ _
    _ = 256 * steps * cycleMicros frequency := Nat.mul_comm _ _

/-- A time that some valid frequency can last is given the fastest such one. -/
theorem fastestFor_isGreatest (inReach : micros ≤ reach steps minFrequency) :
    IsGreatest {frequency | minFrequency ≤ frequency ∧ frequency ≤ maxFrequency ∧
      micros ≤ reach steps frequency} (fastestFor steps micros) := by
  cases found : frequencies.find? fun frequency => micros ≤ reach steps frequency with
  | none =>
      have slowest : minFrequency ∈ frequencies := mem_frequencies_iff.mpr (by decide)
      have missed := List.find?_eq_none.mp found minFrequency slowest
      exact absurd (decide_eq_true inReach) missed
  | some fastest =>
      have greatest := isGreatest_of_find? found
      simp only [mem_frequencies_iff, decide_eq_true_eq, and_assoc] at greatest
      rw [fastestFor, found]
      exact greatest

/-- A time that no valid frequency can last is given the slowest one. -/
theorem fastestFor_of_lt (beyond : reach steps minFrequency < micros) :
    fastestFor steps micros = minFrequency := by
  cases found : frequencies.find? fun frequency => micros ≤ reach steps frequency with
  | none => rw [fastestFor, found, Option.getD_none]
  | some fastest =>
      have valid := mem_frequencies_iff.mp (List.mem_of_find?_eq_some found)
      have lasts := List.find?_some found
      rw [decide_eq_true_eq] at lasts
      have slower := reach_antitone steps valid.1
      omega

/-- The frequency of an effect that should last some time. -/
def frequencyFor (steps : Nat) (desired : UInt8) (millis : UInt32) : UInt8 :=
  if desired = 0 then fastestFor steps (millis.toNat * 1000) else clampFrequency desired

/-! ## Checked arithmetic -/

/-- A value below a limit. -/
def below? (limit value : Nat) : Option Nat :=
  if value < limit then some value else none

/-- A value less a part of it. -/
def less? (value part : Nat) : Option Nat :=
  if part ≤ value then some (value - part) else none

/-- A quotient, rounded down, with a divisor that is not zero. -/
def quotient? (value divisor : Nat) : Option Nat :=
  if divisor = 0 then none else some (value / divisor)

/-- A quotient, rounded up: one more than the one rounded down if something remains. -/
def ceiling? (value divisor : Nat) : Option Nat := do
  let quotient ← quotient? value divisor
  if value % divisor = 0 then some quotient else below? 0x10000000000000000 (quotient + 1)

variable {limit value part divisor : Nat}

theorem below?_of_lt (small : value < limit) : below? limit value = some value :=
  if_pos small

theorem less?_of_le (within : part ≤ value) : less? value part = some (value - part) :=
  if_pos within

theorem quotient?_of_pos (positive : 0 < divisor) :
    quotient? value divisor = some (value / divisor) :=
  if_neg (Nat.pos_iff_ne_zero.mp positive)

/-- A ceiling is computed whenever its dividend fits. -/
theorem ceiling?_of_pos (positive : 0 < divisor) (small : value < 0x10000000000000000) :
    ceiling? value divisor = some ((value + divisor - 1) / divisor) := by
  have parts := Nat.div_add_mod' value divisor
  have inside := Nat.mod_lt value positive
  rw [ceiling?, quotient?_of_pos positive, Option.bind_eq_bind, Option.bind_some]
  by_cases even : value % divisor = 0
  · rw [if_pos even]
    congr 1
    symm
    apply Nat.div_eq_of_lt_le
    · omega
    · rw [Nat.succ_mul]
      omega
  · have fewer : value / divisor * 1 ≤ value / divisor * divisor :=
      Nat.mul_le_mul_left _ positive
    rw [if_neg even, below?_of_lt (by omega)]
    congr 1
    symm
    apply Nat.div_eq_of_lt_le
    · rw [Nat.succ_mul]
      omega
    · rw [Nat.succ_mul, Nat.succ_mul]
      omega

/-- The power steps of an effect, in bytes. -/
def Inclination.steps? (inclination : Inclination) (power : UInt8) : Option Nat :=
  match inclination with
  | .constant => some 1
  | .rampDown => some (max power.toNat 1)
  | .rampUp => do
      let rest ← less? maxPower.toNat power.toNat
      below? 0x100 (rest + 1)

/-- The length of one cycle, in long words. -/
def cycleMicros? (frequency : UInt8) : Option Nat := do
  let parts ← below? 0x10000000000000000 (frequency.toNat + 1)
  quotient? 2000000 parts

/-- The longest time at a frequency, in long words. -/
def reach? (steps : Nat) (frequency : UInt8) : Option Nat := do
  let cycle ← cycleMicros? frequency
  let longest ← below? 0x10000000000000000 (maxCycles + 1)
  let step ← below? 0x10000000000000000 (cycle * longest)
  below? 0x10000000000000000 (step * steps)

/-- The search for the fastest frequency, in long words. -/
def fastestFor? (steps : Nat) (millis : UInt32) : Option UInt8 := do
  let micros ← below? 0x10000000000000000 (millis.toNat * 1000)
  let found ← frequencies.findM? fun frequency => do
    let longest ← reach? steps frequency
    pure (decide (micros ≤ longest))
  pure (found.getD minFrequency)

/-- The frequency of an effect that should last some time, in long words. -/
def frequencyFor? (steps : Nat) (desired : UInt8) (millis : UInt32) : Option UInt8 :=
  if desired = 0 then fastestFor? steps millis else some (clampFrequency desired)

/-- The cycles that each power step needs, less one, in long words. -/
def neededCycles? (micros cycle steps : Nat) : Option Nat := do
  let whole ← ceiling? micros cycle
  let perStep ← ceiling? (max whole 1) steps
  less? perStep 1

namespace Effect

/-- The making of an effect, in bytes and long words. -/
def pulse? (power : UInt8) (inclination : Inclination) (frequency : UInt8) (millis : UInt32) :
    Option Effect :=
  let power := min power maxPower
  if power = 0 then
    some stop
  else do
    let steps ← inclination.steps? power
    let frequency ← frequencyFor? steps frequency millis
    let cycle ← cycleMicros? frequency
    let micros ← below? 0x10000000000000000 (millis.toNat * 1000)
    let needed ← neededCycles? micros cycle steps
    some
      { power
        inclination
        frequency
        cycles := UInt8.ofNat (min needed maxCycles)
        continuous := false }

/-- The length of an effect, in long words and brought back into a word. -/
def durationMillis? (effect : Effect) : Option Nat :=
  if effect.isStop then
    some 0
  else do
    let cycles ← below? 0x10000000000000000 (effect.cycles.toNat + 1)
    let steps ← effect.inclination.steps? effect.power
    let total ← below? 0x10000000000000000 (cycles * steps)
    let cycle ← cycleMicros? effect.frequency
    let micros ← below? 0x10000000000000000 (total * cycle)
    let millis ← quotient? micros 1000
    below? 0x100000000 millis

end Effect

theorem steps?_eq (inclination : Inclination) (weak : power ≤ maxPower) :
    inclination.steps? power = some (inclination.steps power) := by
  have atMost : power.toNat ≤ maxPower.toNat := weak
  have largest : maxPower.toNat = 7 := rfl
  cases inclination with
  | constant => rfl
  | rampDown => rfl
  | rampUp =>
      rw [Inclination.steps?, less?_of_le atMost, Option.bind_eq_bind, Option.bind_some]
      exact below?_of_lt (by omega)

theorem cycleMicros?_eq (frequency : UInt8) :
    cycleMicros? frequency = some (cycleMicros frequency) := by
  have small := frequency.toNat_lt
  rw [cycleMicros?, below?_of_lt (by omega), Option.bind_eq_bind, Option.bind_some]
  exact quotient?_of_pos (Nat.succ_pos _)

theorem reach?_eq (few : steps ≤ 7) (frequency : UInt8) :
    reach? steps frequency = some (reach steps frequency) := by
  have cycle := cycleMicros_le frequency
  have step : cycleMicros frequency * (maxCycles + 1) ≤ 2000000 * 256 :=
    Nat.mul_le_mul_right _ cycle
  have all : cycleMicros frequency * (maxCycles + 1) * steps ≤ 2000000 * 256 * 7 :=
    Nat.mul_le_mul step few
  simp only [reach?, cycleMicros?_eq, Option.bind_eq_bind, Option.bind_some]
  rw [below?_of_lt (by decide), Option.bind_some, below?_of_lt (by omega), Option.bind_some]
  exact below?_of_lt (by omega)

theorem below?_micros (millis : UInt32) :
    below? 0x10000000000000000 (millis.toNat * 1000) = some (millis.toNat * 1000) := by
  have small := millis.toNat_lt
  exact below?_of_lt (by omega)

theorem fastestFor?_eq (few : steps ≤ 7) (millis : UInt32) :
    fastestFor? steps millis = some (fastestFor steps (millis.toNat * 1000)) := by
  simp only [fastestFor?, below?_micros, reach?_eq few, Option.bind_eq_bind, Option.bind_some,
    List.findM?_pure]
  rfl

theorem frequencyFor?_eq (few : steps ≤ 7) (desired : UInt8) (millis : UInt32) :
    frequencyFor? steps desired millis = some (frequencyFor steps desired millis) := by
  rw [frequencyFor?, frequencyFor, fastestFor?_eq few]
  split <;> rfl

theorem neededCycles?_eq (lasts : 0 < cycle) (stepped : 0 < steps)
    (small : micros < 0x10000000000000000) :
    neededCycles? micros cycle steps = some (neededCycles micros cycle steps) := by
  have whole : (micros + cycle - 1) / cycle ≤ micros := by
    rw [← Nat.ceilDiv_eq_add_pred_div, ceilDiv_le_iff_le_mul lasts]
    exact Nat.le_mul_of_pos_left micros lasts
  have perStep : 1 ≤ (max ((micros + cycle - 1) / cycle) 1 + steps - 1) / steps := by
    apply Nat.div_pos _ stepped
    omega
  rw [neededCycles?, ceiling?_of_pos lasts small, Option.bind_eq_bind, Option.bind_some,
    ceiling?_of_pos stepped (by omega), Option.bind_some]
  exact less?_of_le perStep

/-! ## Effects -/

namespace Effect

variable {desired : UInt8}

theorem min_maxPower_le (power : UInt8) : min power maxPower ≤ maxPower := by
  rw [UInt8.le_iff_toNat_le, UInt8.toNat_min]
  exact Nat.min_le_right _ _

theorem min_maxPower_pos (strong : 0 < power) : 0 < min power maxPower := by
  have atLeast : 0 < power.toNat := strong
  rw [UInt8.lt_iff_toNat_lt, UInt8.toNat_min]
  exact Nat.lt_min.mpr ⟨atLeast, by decide⟩

/-- An effect with some power has the cycles it needs, as far as the counter goes. -/
theorem pulse_of_pos (strong : 0 < power) (inclination : Inclination) (desired : UInt8)
    (millis : UInt32) :
    pulse power inclination desired millis =
      let power := min power maxPower
      let steps := inclination.steps power
      let frequency := frequencyFor steps desired millis
      let needed := neededCycles (millis.toNat * 1000) (cycleMicros frequency) steps
      { power
        inclination
        frequency
        cycles := UInt8.ofNat (min needed maxCycles)
        continuous := false } :=
  if_neg (UInt8.pos_iff_ne_zero.mp (min_maxPower_pos strong))

/-- Nothing on the way to an effect leaves the width of its word. -/
theorem pulse?_eq (power : UInt8) (inclination : Inclination) (desired : UInt8)
    (millis : UInt32) :
    pulse? power inclination desired millis =
      some (pulse power inclination desired millis) := by
  by_cases stops : power = 0
  · rw [stops]
    rfl
  · have strong : 0 < power := UInt8.pos_iff_ne_zero.mpr stops
    have weak := min_maxPower_le power
    have stronger := min_maxPower_pos strong
    have few := steps_le inclination stronger weak
    have small := millis.toNat_lt
    simp only [pulse?, UInt8.pos_iff_ne_zero.mp stronger, if_false, steps?_eq inclination weak,
      frequencyFor?_eq few, cycleMicros?_eq, below?_micros, Option.bind_eq_bind,
      Option.bind_some, pulse_of_pos strong]
    rw [neededCycles?_eq (cycleMicros_pos _) (steps_pos _ _) (by omega), Option.bind_some]

/-- Nothing on the way to the length of an effect leaves the width of its word. -/
theorem durationMillis?_eq {effect : Effect} (weak : effect.power ≤ maxPower) :
    effect.durationMillis? = some effect.durationMillis := by
  by_cases stops : effect.isStop = true
  · rw [durationMillis?, durationMillis, if_pos stops, if_pos stops]
  · have strong : 0 < effect.power := by
      apply UInt8.pos_iff_ne_zero.mpr
      rintro zero
      exact stops (beq_iff_eq.mpr zero)
    have counter := effect.cycles.toNat_lt
    have few := steps_le effect.inclination strong weak
    have total : (effect.cycles.toNat + 1) * effect.inclination.steps effect.power ≤ 256 * 7 :=
      Nat.mul_le_mul (by omega) few
    have micros : (effect.cycles.toNat + 1) * effect.inclination.steps effect.power *
        cycleMicros effect.frequency ≤ 256 * 7 * 2000000 :=
      Nat.mul_le_mul total (cycleMicros_le effect.frequency)
    simp only [durationMillis?, durationMillis, if_neg stops, steps?_eq effect.inclination weak,
      cycleMicros?_eq, Option.bind_eq_bind, Option.bind_some]
    rw [below?_of_lt (by omega), Option.bind_some, below?_of_lt (by omega), Option.bind_some,
      below?_of_lt (by omega), Option.bind_some, quotient?_of_pos (by decide), Option.bind_some]
    exact below?_of_lt (by omega)

/-- The counter of an effect can cover a duration at a frequency. -/
def CanCover (effect : Effect) (frequency : UInt8) (millis : UInt32) : Prop :=
  millis.toNat * 1000 ≤
    256 * effect.inclination.steps effect.power * cycleMicros frequency

/-- The counter of an effect is what a duration needs, as far as the counter goes. -/
def IsCounted (effect : Effect) (millis : UInt32) : Prop :=
  effect.cycles.toNat =
    min
      (neededCycles (millis.toNat * 1000) (cycleMicros effect.frequency)
        (effect.inclination.steps effect.power))
      maxCycles

variable {effect : Effect}

theorem canCover_iff :
    effect.CanCover frequency millis ↔
      neededCycles (millis.toNat * 1000) (cycleMicros frequency)
        (effect.inclination.steps effect.power) ≤ maxCycles :=
  (neededCycles_le_iff (cycleMicros_pos _) (steps_pos _ _)).symm

theorem canCover_iff_reach :
    effect.CanCover frequency millis ↔
      millis.toNat * 1000 ≤ reach (effect.inclination.steps effect.power) frequency := by
  rw [reach_eq, CanCover]

theorem IsCounted.covers (counted : effect.IsCounted millis) (strong : 0 < effect.power)
    (can : effect.CanCover effect.frequency millis) :
    millis.toNat ≤ effect.durationMillis := by
  have running : ¬ effect.isStop = true := fun stops =>
    UInt8.pos_iff_ne_zero.mp strong (beq_iff_eq.mp stops)
  have enough : neededCycles (millis.toNat * 1000) (cycleMicros effect.frequency)
      (effect.inclination.steps effect.power) ≤ effect.cycles.toNat := by
    rw [counted, Nat.min_eq_left (canCover_iff.mp can)]
  rw [neededCycles_le_iff (cycleMicros_pos _) (steps_pos _ _)] at enough
  rw [durationMillis, if_neg running, Nat.le_div_iff_mul_le (by decide)]
  exact enough

theorem IsCounted.full (counted : effect.IsCounted millis)
    (cannot : ¬ effect.CanCover effect.frequency millis) : effect.cycles = 0xFF := by
  rw [canCover_iff, Nat.not_le] at cannot
  apply UInt8.toNat_inj.mp
  rw [counted, Nat.min_eq_right cannot.le]
  rfl

theorem IsCounted.least (counted : effect.IsCounted millis) :
    effect.cycles = 0 ∨
      effect.cycles.toNat * effect.inclination.steps effect.power *
        cycleMicros effect.frequency < millis.toNat * 1000 := by
  by_cases zero : effect.cycles = 0
  · exact Or.inl zero
  · -- One cycle fewer is not what is needed, so it does not cover the duration.
    obtain ⟨fewer, counter⟩ := Nat.exists_eq_succ_of_ne_zero
      (fun unset => zero (UInt8.toNat_inj.mp unset) : effect.cycles.toNat ≠ 0)
    have short : ¬ neededCycles (millis.toNat * 1000) (cycleMicros effect.frequency)
        (effect.inclination.steps effect.power) ≤ fewer := by
      rw [IsCounted, counter] at counted
      omega
    rw [neededCycles_le_iff (cycleMicros_pos _) (steps_pos _ _), Nat.not_le] at short
    right
    rw [counter]
    exact short

section Pulse

variable (strong : 0 < power) (inclination : Inclination) (desired : UInt8) (millis : UInt32)

include strong

theorem power_pulse : (pulse power inclination desired millis).power = min power maxPower := by
  rw [pulse_of_pos strong]

theorem frequency_pulse :
    (pulse power inclination desired millis).frequency =
      frequencyFor (inclination.steps (min power maxPower)) desired millis := by
  rw [pulse_of_pos strong]

theorem inclination_pulse :
    (pulse power inclination desired millis).inclination = inclination := by
  rw [pulse_of_pos strong]

theorem isCounted_pulse : (pulse power inclination desired millis).IsCounted millis := by
  rw [IsCounted, pulse_of_pos strong, UInt8.toNat_ofNat']
  simp only [maxCycles]
  omega

theorem pos_power_pulse : 0 < (pulse power inclination desired millis).power := by
  rw [power_pulse strong]
  exact min_maxPower_pos strong

/-- A duration in reach of an effect without a desired frequency gets the fastest one. -/
theorem isGreatest_frequency_pulse
    (can : (pulse power inclination 0 millis).CanCover minFrequency millis) :
    IsGreatest {frequency | minFrequency ≤ frequency ∧ frequency ≤ maxFrequency ∧
      (pulse power inclination 0 millis).CanCover frequency millis}
        (pulse power inclination 0 millis).frequency := by
  simp only [canCover_iff_reach, power_pulse strong, inclination_pulse strong,
    frequency_pulse strong] at can ⊢
  exact fastestFor_isGreatest can

/-- A duration beyond the reach of an effect without a desired frequency gets the slowest
one. -/
theorem frequency_pulse_of_not_canCover
    (cannot : ¬ (pulse power inclination 0 millis).CanCover minFrequency millis) :
    (pulse power inclination 0 millis).frequency = minFrequency := by
  simp only [canCover_iff_reach, power_pulse strong, inclination_pulse strong,
    frequency_pulse strong, Nat.not_le] at cannot ⊢
  exact fastestFor_of_lt cannot

end Pulse

/-- What an effect is that was made to last some milliseconds. -/
structure IsTimed (power : UInt8) (inclination : Inclination) (desired : UInt8)
    (millis : UInt32) (effect : Effect) : Prop where
  /-- It has the power, as far as power goes, and the inclination, and it ends. -/
  shape : effect.power = min power maxPower ∧ effect.inclination = inclination ∧
    effect.continuous = false
  /-- Without a desired frequency, it covers a duration that it can cover, and pulsates as fast
  as an effect can that covers it. -/
  fastest : desired = 0 → effect.CanCover minFrequency millis →
    millis.toNat ≤ effect.durationMillis ∧
      IsGreatest {frequency | minFrequency ≤ frequency ∧ frequency ≤ maxFrequency ∧
        effect.CanCover frequency millis} effect.frequency
  /-- Without a desired frequency, it is as long as it can be if it cannot cover the
  duration. -/
  longest : desired = 0 → ¬ effect.CanCover minFrequency millis →
    effect.frequency = minFrequency ∧ effect.cycles = 0xFF
  /-- A desired frequency is kept as far as it is valid. -/
  clamped : desired ≠ 0 → effect.frequency = max minFrequency (min desired maxFrequency)
  /-- At a desired frequency, it covers a duration that it can cover. -/
  covers : desired ≠ 0 → effect.CanCover effect.frequency millis →
    millis.toNat ≤ effect.durationMillis
  /-- At a desired frequency, its counter is at its end if it cannot cover the duration. -/
  full : desired ≠ 0 → ¬ effect.CanCover effect.frequency millis → effect.cycles = 0xFF
  /-- No smaller counter covers the duration. -/
  least : effect.cycles = 0 ∨
    effect.cycles.toNat * effect.inclination.steps effect.power *
      cycleMicros effect.frequency < millis.toNat * 1000
  /-- Making it and measuring it leave no word on the way. -/
  computed : pulse? power inclination desired millis = some effect ∧
    effect.durationMillis? = some effect.durationMillis

/-- An effect that is made to last some milliseconds covers them if it can, with the fewest
cycles, and lasts as long as it can otherwise. -/
theorem pulse_isTimed (strong : 1 ≤ power) (inclination : Inclination) (desired : UInt8)
    (millis : UInt32) :
    IsTimed power inclination desired millis (pulse power inclination desired millis) := by
  have counted := isCounted_pulse strong inclination desired millis
  have running := pos_power_pulse strong inclination desired millis
  have weak : (pulse power inclination desired millis).power ≤ maxPower := by
    rw [power_pulse strong]
    exact min_maxPower_le power
  exact {
    shape := ⟨power_pulse strong .., inclination_pulse strong .., by rw [pulse_of_pos strong]⟩
    fastest := by
      rintro rfl can
      have greatest := isGreatest_frequency_pulse strong inclination millis can
      exact ⟨counted.covers running greatest.1.2.2, greatest⟩
    longest := by
      rintro rfl cannot
      have slowest := frequency_pulse_of_not_canCover strong inclination millis cannot
      rw [← slowest] at cannot
      exact ⟨slowest, counted.full cannot⟩
    clamped := by
      intro wished
      rw [frequency_pulse strong, frequencyFor, if_neg wished]
      rfl
    covers := fun _ => counted.covers running
    full := fun _ => counted.full
    least := counted.least
    computed := ⟨pulse?_eq power inclination desired millis, durationMillis?_eq weak⟩ }

/-- A falling ramp at ten cycles a second that should last a second. -/
theorem pulse_rampDown_isTimed :
    IsTimed 4 .rampDown 19 1000 (pulse 4 .rampDown 19 1000) ∧
      (pulse 4 .rampDown 19 1000).cycles = 2 ∧
        (pulse 4 .rampDown 19 1000).durationMillis = 1200 :=
  ⟨pulse_isTimed (by decide) .rampDown 19 1000, by decide, by decide⟩

end Effect

end MapleBus.Device.Vibration
