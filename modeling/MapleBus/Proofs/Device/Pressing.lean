import MapleBus.Device.Controller
import Mathlib.Data.Nat.Bitwise

/-!
# What a controller's words tell

A controller reports two words.  Each control has one bit of its own in the first one, clear
while the control is pressed; the low half holds the triggers, and the second word the sticks.
So whoever reads the words sees the buttons that are mapped, the hat, the triggers and the
sticks of the gamepad, and nothing else of it.
-/

namespace MapleBus.Device

/-! ## Buttons of a gamepad -/

/-- A single button is held if its bit is set. -/
theorem GamepadButtons.contains_eq_testBit {buttons single : GamepadButtons} {place : Nat}
    (only : single.bits.toNat = 2 ^ place) :
    buttons.contains single = buttons.bits.toNat.testBit place := by
  rw [contains, Bool.eq_iff_iff, beq_iff_eq]
  exact Word.and_eq_iff_testBit fun other => by rw [only, Nat.testBit_two_pow]

namespace Controller

/-! ## Controls of a controller -/

/-- The controls that stand for a button of a gamepad, each with the bit of that button. -/
def buttonSources : List (Button × Nat) :=
  [(.a, 0), (.b, 1), (.x, 2), (.y, 3), (.z, 4), (.c, 5), (.d, 6), (.start, 8)]

/-- The controls that stand for a direction, each with the positions of the hat that press
it. -/
def hatSources : List (Button × List Hat) :=
  [ (.up, [.up, .upRight, .upLeft]), (.down, [.down, .downRight, .downLeft]),
    (.left, [.left, .upLeft, .downLeft]), (.right, [.right, .upRight, .downRight]) ]

/-- The controls that nothing on a gamepad stands for. -/
def secondPad : List Button :=
  [.up2, .down2, .left2, .right2]

namespace Button

variable {pad : Gamepad} {button : Button}

theorem toNat_mask (button : Button) : button.mask.toNat = 2 ^ button.position.toNat := by
  cases button <;> rfl

theorem toNat_position_lt (button : Button) : button.position.toNat < 16 := by
  cases button <;> decide

theorem heldOn_of_mem_buttonSources {source : Button × Nat} (mem : source ∈ buttonSources) :
    source.1.heldOn pad = pad.buttons.bits.toNat.testBit source.2 := by
  simp only [buttonSources, List.mem_cons, List.not_mem_nil, or_false] at mem
  rcases mem with rfl | rfl | rfl | rfl | rfl | rfl | rfl | rfl <;>
    exact GamepadButtons.contains_eq_testBit rfl

theorem heldOn_of_mem_hatSources {source : Button × List Hat} (mem : source ∈ hatSources) :
    source.1.heldOn pad = decide (pad.hat ∈ source.2) := by
  simp only [hatSources, List.mem_cons, List.not_mem_nil, or_false] at mem
  rcases mem with rfl | rfl | rfl | rfl <;>
    simp only [heldOn] <;> cases pad.hat <;> rfl

theorem heldOn_of_mem_secondPad (mem : button ∈ secondPad) : button.heldOn pad = false := by
  simp only [secondPad, List.mem_cons, List.not_mem_nil, or_false] at mem
  rcases mem with rfl | rfl | rfl | rfl <;> rfl

/-- Every control has its place in one of the three lists. -/
theorem mem_sources (button : Button) :
    button ∈ buttonSources.map Prod.fst ∨ button ∈ hatSources.map Prod.fst ∨
      button ∈ secondPad := by
  cases button <;> decide

end Button

/-! ## Conditions -/

namespace Condition

/-- A bit is set in a set of controls if it was set or is that of a control that is held. -/
theorem testBit_foldl_mask (held : Button → Bool) (buttons : List Button) (pressed : UInt16)
    (place : Nat) :
    (buttons.foldl (fun pressed button => if held button then pressed ||| button.mask else pressed)
      pressed).toNat.testBit place =
        (pressed.toNat.testBit place ||
          buttons.any fun button => held button && (button.position.toNat == place)) := by
  induction buttons generalizing pressed with
  | nil => simp
  | cons button rest ih =>
      rw [List.foldl_cons, ih, List.any_cons]
      cases held button with
      | false => simp
      | true =>
          simp only [if_true, Bool.true_and, UInt16.toNat_or, Button.toNat_mask, Nat.testBit_or,
            Nat.testBit_two_pow, Bool.or_assoc]
          rfl

variable {pad other : Gamepad}

/-- Among the pressed controls are those that the gamepad presses. -/
theorem testBit_pressed (pad : Gamepad) (button : Button) :
    (ofGamepad pad).pressed.toNat.testBit button.position.toNat = button.heldOn pad := by
  rw [ofGamepad, testBit_foldl_mask]
  cases button <;> simp [Button.all, Button.position]

theorem toNat_buttonWord (condition : Condition) :
    condition.buttonWord.toNat =
      2 ^ 16 * (~~~condition.pressed).toNat +
        (0x100 * condition.rightTrigger.toNat + condition.leftTrigger.toNat) := by
  have released := (~~~condition.pressed).toNat_lt
  have right := condition.rightTrigger.toNat_lt
  have left := condition.leftTrigger.toNat_lt
  simp only [buttonWord, Word.ofBytes, UInt32.toNat_ofNat', UInt8.toNat_ofNat']
  omega

/-- A bit in the upper half of the word is clear while its control is pressed. -/
theorem testBit_buttonWord (condition : Condition) (button : Button) :
    condition.buttonWord.toNat.testBit (16 + button.position.toNat) =
      !condition.pressed.toNat.testBit button.position.toNat := by
  have right := condition.rightTrigger.toNat_lt
  have left := condition.leftTrigger.toNat_lt
  have low : 0x100 * condition.rightTrigger.toNat + condition.leftTrigger.toNat < 2 ^ 16 := by
    omega
  have complement : (~~~condition.pressed).toNat = 2 ^ 16 - (condition.pressed.toNat + 1) := by
    rw [UInt16.toNat_not, UInt16.size]
    omega
  have upper : ¬ 16 + button.position.toNat < 16 := by omega
  rw [toNat_buttonWord, Nat.testBit_two_pow_mul_add _ low, if_neg upper, Nat.add_sub_cancel_left,
    complement, Nat.testBit_two_pow_sub_succ condition.pressed.toNat_lt]
  simp [button.toNat_position_lt]

end Condition

/-! ## Words -/

/-- A control is pressed in a word of buttons: its bit is clear. -/
def IsPressed (word : UInt32) (button : Button) : Prop :=
  word.toNat.testBit (16 + button.position.toNat) = false

/-- What two condition words tell of a gamepad. -/
structure Tells (pad : Gamepad) (first second : UInt32) : Prop where
  /-- A control that stands for a button is pressed exactly while the button is held. -/
  buttons : ∀ source ∈ buttonSources,
    IsPressed first source.1 ↔ pad.buttons.bits.toNat.testBit source.2 = true
  /-- A direction is pressed exactly while the hat presses it. -/
  directions : ∀ source ∈ hatSources, IsPressed first source.1 ↔ pad.hat ∈ source.2
  /-- Opposite directions are not pressed together. -/
  opposite : ¬ (IsPressed first .up ∧ IsPressed first .down) ∧
    ¬ (IsPressed first .left ∧ IsPressed first .right)
  /-- The second direction pad is never pressed. -/
  released : ∀ button ∈ secondPad, ¬ IsPressed first button
  triggers : first.toNat % 0x10000 = 0x100 * pad.rightTrigger.toNat + pad.leftTrigger.toNat
  sticks : Word.toBytes second = [pad.leftX, pad.leftY, pad.rightX, pad.rightY]

/-- Two gamepads do not differ in anything that a controller reports. -/
structure Alike (pad other : Gamepad) : Prop where
  buttons : ∀ source ∈ buttonSources,
    pad.buttons.bits.toNat.testBit source.2 = other.buttons.bits.toNat.testBit source.2
  hat : pad.hat = other.hat
  triggers : pad.leftTrigger = other.leftTrigger ∧ pad.rightTrigger = other.rightTrigger
  sticks : pad.leftX = other.leftX ∧ pad.leftY = other.leftY ∧ pad.rightX = other.rightX ∧
    pad.rightY = other.rightY

variable {pad other : Gamepad} {first second : UInt32}

/-- A control is pressed in the word of a gamepad while the gamepad presses it. -/
theorem isPressed_iff (pad : Gamepad) (button : Button) :
    IsPressed (Condition.ofGamepad pad).buttonWord button ↔ button.heldOn pad = true := by
  rw [IsPressed, Condition.testBit_buttonWord, Condition.testBit_pressed, Bool.not_eq_false']

theorem tells_ofGamepad (pad : Gamepad) :
    Tells pad (Condition.ofGamepad pad).buttonWord (Condition.ofGamepad pad).stickWord where
  buttons source mem := by
    rw [isPressed_iff, Button.heldOn_of_mem_buttonSources mem]
  directions source mem := by
    rw [isPressed_iff, Button.heldOn_of_mem_hatSources mem, decide_eq_true_iff]
  opposite := by
    simp only [isPressed_iff, Button.heldOn]
    cases pad.hat <;> decide
  released button mem := by
    rw [isPressed_iff, Button.heldOn_of_mem_secondPad mem]
    exact Bool.false_ne_true
  triggers := by
    have right := pad.rightTrigger.toNat_lt
    have left := pad.leftTrigger.toNat_lt
    rw [Condition.toNat_buttonWord]
    change (2 ^ 16 * _ + (0x100 * pad.rightTrigger.toNat + pad.leftTrigger.toNat)) % 0x10000 = _
    omega
  sticks := Word.toBytes_ofBytes _ _ _ _

/-- The positions of a hat differ in the directions that they press. -/
theorem hat_eq_of_directions
    (same : ∀ source ∈ hatSources, pad.hat ∈ source.2 ↔ other.hat ∈ source.2) :
    pad.hat = other.hat := by
  simp only [hatSources, List.forall_mem_cons] at same
  revert same
  cases pad.hat <;> cases other.hat <;> decide

/-- Words that tell of two gamepads tell nothing that differs. -/
theorem Tells.alike (tells : Tells pad first second) (again : Tells other first second) :
    Alike pad other where
  buttons source mem := by
    rw [Bool.eq_iff_iff, ← tells.buttons source mem, again.buttons source mem]
  hat := by
    apply hat_eq_of_directions
    intro source mem
    rw [← tells.directions source mem, again.directions source mem]
  triggers := by
    have right := pad.rightTrigger.toNat_lt
    have otherRight := other.rightTrigger.toNat_lt
    have left := pad.leftTrigger.toNat_lt
    have otherLeft := other.leftTrigger.toNat_lt
    have same := tells.triggers.symm.trans again.triggers
    constructor <;> apply UInt8.toNat_inj.mp <;> omega
  sticks := by
    have same := tells.sticks.symm.trans again.sticks
    simpa only [List.cons.injEq, and_true] using same

theorem Alike.heldOn_eq (alike : Alike pad other) (button : Button) :
    button.heldOn pad = button.heldOn other := by
  rcases button.mem_sources with mapped | mapped | nothing
  · rcases List.mem_map.mp mapped with ⟨source, mem, rfl⟩
    rw [Button.heldOn_of_mem_buttonSources mem, Button.heldOn_of_mem_buttonSources mem,
      alike.buttons source mem]
  · rcases List.mem_map.mp mapped with ⟨source, mem, rfl⟩
    rw [Button.heldOn_of_mem_hatSources mem, Button.heldOn_of_mem_hatSources mem, alike.hat]
  · rw [Button.heldOn_of_mem_secondPad nothing, Button.heldOn_of_mem_secondPad nothing]

/-- Gamepads that do not differ in what is reported are in the same condition. -/
theorem Alike.ofGamepad_eq (alike : Alike pad other) :
    Condition.ofGamepad pad = Condition.ofGamepad other := by
  rcases alike.triggers with ⟨left, right⟩
  rcases alike.sticks with ⟨leftX, leftY, rightX, rightY⟩
  simp only [Condition.ofGamepad, alike.heldOn_eq, left, right, leftX, leftY, rightX, rightY]

/-- The two condition words tell of a gamepad its mapped buttons, its hat, its triggers and its
sticks, and two gamepads have the same words exactly if they do not differ in these. -/
theorem words_tell :
    (∀ pad, ∃ first second, (Condition.ofGamepad pad).toWords = [first, second] ∧
      Tells pad first second) ∧
      ∀ pad other, (Condition.ofGamepad pad).toWords = (Condition.ofGamepad other).toWords ↔
        Alike pad other := by
  refine ⟨fun pad => ⟨_, _, rfl, tells_ofGamepad pad⟩, fun pad other => ⟨?_, ?_⟩⟩
  · intro same
    simp only [Condition.toWords, List.cons.injEq, and_true] at same
    have again := tells_ofGamepad other
    rw [← same.1, ← same.2] at again
    exact (tells_ofGamepad pad).alike again
  · intro alike
    rw [alike.ofGamepad_eq]

end Controller

end MapleBus.Device
