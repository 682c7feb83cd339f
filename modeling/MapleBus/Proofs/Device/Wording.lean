import MapleBus.Proofs.Device.Pulsating

/-!
# What the word of an effect tells

Power and inclination share a byte of the condition word: a constant power stands in the high
half, a falling one too with the top bit set, and a rising one in the low half with the fourth
bit set.  Effects are made with a power of three bits, and without one only as a stop, so the
three layouts have no byte in common and a pack can read every effect back from its word.
-/

namespace MapleBus.Device.Vibration

variable {power : UInt8} {inclination : Inclination}

/-! ## Reading a word -/

/-- The power and the inclination that a pack reads in a byte. -/
def readPower (byte : UInt8) : UInt8 × Inclination :=
  if byte &&& 0x80 ≠ 0 then
    (byte >>> 4 &&& maxPower, .rampDown)
  else if byte &&& 0x08 ≠ 0 then
    (byte &&& maxPower, .rampUp)
  else
    (byte >>> 4, .constant)

namespace Effect

/-- The effect that a pack reads in a condition word. -/
def ofWord (word : UInt32) : Effect :=
  let byte (place : Nat) : UInt8 := (Word.toBytes word).getD place 0
  { power := (readPower (byte 1)).1
    inclination := (readPower (byte 1)).2
    frequency := byte 2
    cycles := byte 3
    continuous := byte 0 &&& 1 ≠ 0 }

/-! ## Effects with one layout -/

/-- The power has three bits, and no ramp is without power. -/
structure IsPlain (effect : Effect) : Prop where
  weak : effect.power ≤ maxPower
  flat : effect.power = 0 → effect.inclination = .constant

variable {effect other : Effect}

/-- Powers of three bits are few. -/
theorem exists_fin_of_le_maxPower (weak : power ≤ maxPower) :
    ∃ strength : Fin 8, power = UInt8.ofNat strength := by
  have small : power.toNat < 8 := Nat.lt_succ_of_le weak
  exact ⟨⟨power.toNat, small⟩, UInt8.ofNat_toNat.symm⟩

theorem IsPlain.readPower_powerByte (plain : effect.IsPlain) :
    readPower effect.powerByte = (effect.power, effect.inclination) := by
  rcases effect with ⟨power, inclination, frequency, cycles, continuous⟩
  rcases plain with ⟨weak, flat⟩
  dsimp only at weak flat ⊢
  -- The byte depends on power and inclination only, so the rest may be that of a stop.
  change readPower ({ stop with power, inclination } : Effect).powerByte = (power, inclination)
  obtain ⟨strength, rfl⟩ := exists_fin_of_le_maxPower weak
  clear weak
  cases inclination <;> revert flat <;> revert strength <;> decide

theorem IsPlain.powerByte_eq_zero_iff (plain : effect.IsPlain) :
    effect.powerByte = 0 ↔ effect.isStop = true := by
  rw [isStop, beq_iff_eq]
  constructor
  · intro nothing
    have read := plain.readPower_powerByte
    rw [nothing] at read
    exact (congrArg Prod.fst read).symm
  · intro still
    simp [powerByte, still]

/-! ## Words -/

theorem toBytes_word (effect : Effect) :
    Word.toBytes effect.word =
      [ if effect.continuous then 0x11 else 0x10, effect.powerByte, effect.frequency,
        effect.cycles ] :=
  Word.toBytes_ofBytes _ _ _ _

/-- A pack reads in the word of an effect the effect itself. -/
theorem IsPlain.ofWord_word (plain : effect.IsPlain) : ofWord effect.word = effect := by
  rcases effect with ⟨power, inclination, frequency, cycles, continuous⟩
  have read := plain.readPower_powerByte
  have control : decide ((if continuous then (0x11 : UInt8) else 0x10) &&& 1 ≠ 0) = continuous := by
    cases continuous <;> decide
  simp only [ofWord, toBytes_word, List.getD_cons_zero, List.getD_cons_succ, read, control]

/-! ## Effects that are made -/

/-- An effect is a stop, or made to last some milliseconds or until the next one. -/
inductive IsMade : Effect → Prop where
  | stop : IsMade .stop
  | pulse (power : UInt8) (inclination : Inclination) (desired : UInt8) (millis : UInt32) :
      IsMade (.pulse power inclination desired millis)
  | lasting (power desired : UInt8) : IsMade (.lasting power desired)

theorem isPlain_stop : IsPlain stop where
  weak := by decide
  flat := fun _ => rfl

theorem isPlain_pulse (power : UInt8) (inclination : Inclination) (desired : UInt8)
    (millis : UInt32) : IsPlain (pulse power inclination desired millis) := by
  by_cases stops : power = 0
  · rw [stops]
    exact isPlain_stop
  · have strong : 0 < power := UInt8.pos_iff_ne_zero.mpr stops
    constructor
    · rw [power_pulse strong]
      exact min_maxPower_le power
    · intro still
      have running := pos_power_pulse strong inclination desired millis
      exact absurd still (UInt8.pos_iff_ne_zero.mp running)

theorem isPlain_lasting (power desired : UInt8) : IsPlain (lasting power desired) where
  weak := by
    change max 1 (min power maxPower) ≤ maxPower
    rw [UInt8.le_iff_toNat_le, UInt8.toNat_max]
    exact Nat.max_le.mpr ⟨by decide, min_maxPower_le power⟩
  flat := fun _ => rfl

theorem IsMade.isPlain (made : effect.IsMade) : effect.IsPlain := by
  cases made with
  | stop => exact isPlain_stop
  | pulse power inclination desired millis => exact isPlain_pulse power inclination desired millis
  | lasting power desired => exact isPlain_lasting power desired

/-- What the word of an effect tells, also beside that of another one. -/
structure IsTold (effect other : Effect) : Prop where
  /-- Reading the word gives the effect back. -/
  read : ofWord effect.word = effect
  /-- Effects with one word are one effect. -/
  word_eq_iff : effect.word = other.word ↔ effect = other
  /-- The second byte of the word is that of power and inclination. -/
  place : (Word.toBytes effect.word)[1]? = some effect.powerByte
  /-- That byte is zero for nothing but a stop. -/
  powerByte_eq_zero_iff : effect.powerByte = 0 ↔ effect.isStop = true

/-- Words tell the effects that are made from each other, and the stop from all others. -/
theorem word_tells (made : effect.IsMade) (otherMade : other.IsMade) : IsTold effect other where
  read := made.isPlain.ofWord_word
  word_eq_iff := by
    constructor
    · intro same
      calc
        effect = ofWord effect.word := made.isPlain.ofWord_word.symm
        _ = ofWord other.word := congrArg ofWord same
        _ = other := otherMade.isPlain.ofWord_word
    · exact congrArg word
  place := by
    rw [toBytes_word]
    rfl
  powerByte_eq_zero_iff := made.isPlain.powerByte_eq_zero_iff

/-- Ramps of one power in both directions have two words. -/
theorem word_tells_ramps :
    IsTold (pulse 4 .rampDown 19 1000) (pulse 4 .rampUp 19 1000) ∧
      (pulse 4 .rampDown 19 1000).word = 0x10C01302 ∧
        (pulse 4 .rampUp 19 1000).word = 0x100C1302 :=
  ⟨word_tells (.pulse ..) (.pulse ..), by decide, by decide⟩

end Effect

end MapleBus.Device.Vibration
