import MapleBus.DeviceInfo
import Mathlib.Data.Finset.Card
import Mathlib.Data.Nat.Bitwise
import Mathlib.Data.Set.Function

/-!
# The order of definition words

A device lists the definition words of its functions from the highest function down.  The
place of a word is found by masking the function and all that is below it out of the set and
counting what is left.  So the places are the ranks of the functions: each function of the set
has one, no two have the same, and together they are all the numbers below the size of the
set.  A block carries the words of the three highest functions.
-/

namespace MapleBus

namespace FunctionSet

variable {functions function : FunctionSet} {position other index : Nat}

/-! ## Positions -/

/-- The positions of the bits that are set. -/
def places (functions : FunctionSet) : Finset Nat :=
  (Finset.range 32).filter (functions.bits.toNat.testBit ·)

theorem lt_of_testBit (set : functions.bits.toNat.testBit position) : position < 32 := by
  have large := Nat.ge_two_pow_of_testBit set
  have bound := functions.bits.toNat_lt
  exact (Nat.pow_lt_pow_iff_right Nat.one_lt_two).mp (Nat.lt_of_le_of_lt large bound)

theorem mem_places_iff : position ∈ functions.places ↔ functions.bits.toNat.testBit position := by
  simp only [places, Finset.mem_filter, Finset.mem_range, and_iff_right_iff_imp]
  exact lt_of_testBit

/-- Counting the functions of a set counts its bits. -/
theorem card_places (functions : FunctionSet) : functions.places.card = functions.count := by
  have listed : functions.places = functions.positions.toFinset := by
    ext position
    simp [places, positions]
  rw [listed]
  exact List.toFinset_card_of_nodup (List.nodup_range.filter _)

/-- A single function has the place of its bit. -/
theorem places_of_single (single : function.bits.toNat = 2 ^ position) :
    function.places = {position} := by
  ext other
  rw [mem_places_iff, single, Nat.testBit_two_pow, Finset.mem_singleton, decide_eq_true_iff]
  exact eq_comm

/-- The sets of one function are those of a single bit. -/
theorem count_eq_one_iff : function.count = 1 ↔ ∃ position, function.bits.toNat = 2 ^ position := by
  rw [← card_places, Finset.card_eq_one]
  constructor
  · rintro ⟨position, only⟩
    refine ⟨position, Nat.eq_of_testBit_eq fun other => ?_⟩
    rw [Nat.testBit_two_pow, Bool.eq_iff_iff, ← mem_places_iff, only, Finset.mem_singleton,
      decide_eq_true_iff]
    exact eq_comm
  · rintro ⟨position, single⟩
    exact ⟨position, places_of_single single⟩

/-- A single function is in a set if its bit is set. -/
theorem contains_of_single (single : function.bits.toNat = 2 ^ position) :
    functions.contains function = functions.bits.toNat.testBit position := by
  have present : function.bits ≠ 0 := by
    rw [ne_eq, ← UInt32.toNat_inj, single]
    exact Nat.two_pow_pos position |>.ne'
  rw [contains, bne_iff_ne.mpr present, Bool.true_and, Bool.eq_iff_iff, beq_iff_eq]
  exact Word.and_eq_iff_testBit fun other => by rw [single, Nat.testBit_two_pow]

/-- The complement of a word has the bits that the word does not have. -/
theorem testBit_not (word : UInt32) {place : Nat} (inside : place < 32) :
    (~~~word).toNat.testBit place = !word.toNat.testBit place := by
  have small := word.toNat_lt
  have flipped : (~~~word).toNat = 2 ^ 32 - (word.toNat + 1) := by
    rw [UInt32.toNat_not]
    change 2 ^ 32 - 1 - word.toNat = _
    omega
  rw [flipped, Nat.testBit_two_pow_sub_succ small, decide_eq_true inside, Bool.true_and]

/-- A single bit and one less than it are together the bits up to it. -/
theorem testBit_upTo (single : function.bits.toNat = 2 ^ position) (place : Nat) :
    (function.bits ||| (function.bits - 1)).toNat.testBit place = decide (place ≤ position) := by
  have pos : 0 < 2 ^ position := Nat.two_pow_pos position
  have least : (1 : UInt32) ≤ function.bits := by
    rw [UInt32.le_iff_toNat_le, single]
    exact pos
  have below : (function.bits - 1).toNat = 2 ^ position - 1 := by
    rw [UInt32.toNat_sub_of_le _ _ least, single]
    rfl
  rw [UInt32.toNat_or, Nat.testBit_or, single, below, Nat.testBit_two_pow,
    Nat.testBit_two_pow_sub_one, Bool.eq_iff_iff, Bool.or_eq_true, decide_eq_true_iff,
    decide_eq_true_iff, decide_eq_true_iff]
  omega

/-- Masking a single function and the bits below it out of a set leaves the functions above. -/
theorem places_above (single : function.bits.toNat = 2 ^ position) :
    (functions.above function).places = functions.places.filter (position < ·) := by
  ext place
  rw [Finset.mem_filter, mem_places_iff, mem_places_iff, above, UInt32.toNat_and,
    Nat.testBit_and, Bool.and_eq_true]
  refine and_congr_right fun set => ?_
  have inside : place < 32 := lt_of_testBit set
  rw [testBit_not _ inside, testBit_upTo single, Bool.not_eq_true', decide_eq_false_iff_not,
    Nat.not_le]

/-! ## Ranks -/

/-- How many functions of a set are above a position. -/
def rank (functions : FunctionSet) (position : Nat) : Nat :=
  (functions.places.filter (position < ·)).card

/-- The index of a single function of the set is its rank, and nothing else has one. -/
theorem definitionIndex?_eq_some_iff :
    functions.definitionIndex? function = some index ↔
      ∃ position, function.bits.toNat = 2 ^ position ∧
        functions.bits.toNat.testBit position ∧ functions.rank position = index := by
  by_cases alone : function.count = 1
  · obtain ⟨position, single⟩ := count_eq_one_iff.mp alone
    have only : ∀ other, function.bits.toNat = 2 ^ other ↔ position = other := fun other => by
      rw [single, Nat.pow_right_inj (Nat.le_refl 2)]
    simp only [only, exists_eq_left', definitionIndex?, alone, ne_eq, not_true_eq_false,
      false_or, contains_of_single single]
    rw [← card_places, places_above single, rank]
    cases functions.bits.toNat.testBit position <;> simp
  · have several : ¬ ∃ position, function.bits.toNat = 2 ^ position :=
      fun single => alone (count_eq_one_iff.mpr single)
    rw [definitionIndex?, if_pos (.inl alone)]
    simp only [reduceCtorEq, false_iff]
    rintro ⟨position, single, -⟩
    exact several ⟨position, single⟩

/-- A higher function has a smaller rank. -/
theorem rank_lt_rank {low high : Nat} (set : high ∈ functions.places) (order : low < high) :
    functions.rank high < functions.rank low := by
  apply Finset.card_lt_card
  refine ⟨fun place mem => ?_, fun subset => ?_⟩
  · rw [Finset.mem_filter] at mem ⊢
    exact ⟨mem.1, order.trans mem.2⟩
  · have above := subset (Finset.mem_filter.mpr ⟨set, order⟩)
    exact Nat.lt_irrefl high (Finset.mem_filter.mp above).2

theorem strictAntiOn_rank (functions : FunctionSet) :
    StrictAntiOn functions.rank functions.places :=
  fun _ _ _ set order => rank_lt_rank set order

theorem rank_lt_card (set : position ∈ functions.places) :
    functions.rank position < functions.places.card := by
  apply Finset.card_lt_card
  refine ⟨Finset.filter_subset _ _, fun subset => ?_⟩
  exact Nat.lt_irrefl position (Finset.mem_filter.mp (subset set)).2

/-- Every number below the size of a set is the rank of one of its functions. -/
theorem exists_rank (small : index < functions.places.card) :
    ∃ position ∈ functions.places, functions.rank position = index := by
  have below : Set.MapsTo functions.rank functions.places
      (Finset.range functions.places.card) :=
    fun position set => Finset.mem_coe.mpr (Finset.mem_range.mpr (rank_lt_card set))
  -- There are as many positions as numbers, and no two positions have the same rank.
  have onto := Finset.surjOn_of_injOn_of_card_le functions.rank below
    (strictAntiOn_rank functions).injOn (Finset.card_range _).le
  exact onto (Finset.mem_coe.mpr (Finset.mem_range.mpr small))

/-! ## Indices -/

/-- The set has a function that is a single bit. -/
def Has (functions function : FunctionSet) : Prop :=
  ∃ position, function.bits.toNat = 2 ^ position ∧ functions.bits.toNat.testBit position

/-- How many functions of the set are above a given one. -/
def higher (functions function : FunctionSet) : Nat :=
  (functions.places.filter (function.bits.toNat < 2 ^ ·)).card

theorem higher_of_single (single : function.bits.toNat = 2 ^ position) :
    functions.higher function = functions.rank position := by
  simp only [higher, rank, single, Nat.pow_lt_pow_iff_right Nat.one_lt_two]

theorem definitionIndex?_of_has (has : functions.Has function) :
    functions.definitionIndex? function = some (functions.higher function) := by
  obtain ⟨position, single, set⟩ := has
  exact definitionIndex?_eq_some_iff.mpr ⟨position, single, set, (higher_of_single single).symm⟩

theorem has_of_definitionIndex? (found : functions.definitionIndex? function = some index) :
    functions.Has function := by
  obtain ⟨position, single, set, -⟩ := definitionIndex?_eq_some_iff.mp found
  exact ⟨position, single, set⟩

/-- Every position of a set is that of one of its functions. -/
theorem exists_has (set : position ∈ functions.places) :
    ∃ function : FunctionSet, function.bits.toNat = 2 ^ position ∧ functions.Has function := by
  have bit := mem_places_iff.mp set
  have fits : 2 ^ position < 2 ^ 32 := Nat.pow_lt_pow_right Nat.one_lt_two (lt_of_testBit bit)
  have single : (UInt32.ofNat (2 ^ position)).toNat = 2 ^ position := by
    rw [UInt32.toNat_ofNat']
    exact Nat.mod_eq_of_lt fits
  exact ⟨⟨UInt32.ofNat (2 ^ position)⟩, single, position, single, bit⟩

theorem higher_lt_higher {low high : FunctionSet} (hasLow : functions.Has low)
    (hasHigh : functions.Has high) (order : low.bits < high.bits) :
    functions.higher high < functions.higher low := by
  obtain ⟨lowPlace, lowSingle, -⟩ := hasLow
  obtain ⟨highPlace, highSingle, set⟩ := hasHigh
  rw [UInt32.lt_iff_toNat_lt, lowSingle, highSingle, Nat.pow_lt_pow_iff_right Nat.one_lt_two]
    at order
  rw [higher_of_single lowSingle, higher_of_single highSingle]
  exact rank_lt_rank (mem_places_iff.mpr set) order

/-- No two functions of a set have as many above them. -/
theorem eq_of_higher_eq {other : FunctionSet} (has : functions.Has function)
    (hasOther : functions.Has other) (same : functions.higher function = functions.higher other) :
    function = other := by
  have bits : function.bits = other.bits := by
    apply UInt32.le_antisymm <;> rw [← UInt32.not_lt] <;> intro order
    · exact (higher_lt_higher hasOther has order).ne same
    · exact (higher_lt_higher has hasOther order).ne' same
  cases function
  cases other
  exact congrArg mk bits

theorem higher_lt_count (has : functions.Has function) :
    functions.higher function < functions.count := by
  obtain ⟨position, single, set⟩ := has
  rw [higher_of_single single, ← card_places]
  exact rank_lt_card (mem_places_iff.mpr set)

/-- What the indices of the functions of a set are. -/
structure IsRanking (functions : FunctionSet) : Prop where
  /-- The single functions of the set have an index, and nothing else has. -/
  defined : ∀ function, (functions.definitionIndex? function).isSome ↔ functions.Has function
  /-- A higher function has a smaller index. -/
  descending : ∀ low high, functions.Has low → functions.Has high → low.bits < high.bits →
    ∃ lowIndex highIndex, functions.definitionIndex? low = some lowIndex ∧
      functions.definitionIndex? high = some highIndex ∧ highIndex < lowIndex
  /-- Each number below the number of bits is the index of one function, and no function has
  another index. -/
  bijective : Set.BijOn functions.definitionIndex? {function | functions.Has function}
    (some '' {index | index < functions.count})
  /-- The highest function of the set has the first index. -/
  highest : ∀ function, functions.Has function →
    (∀ other, functions.Has other → other.bits ≤ function.bits) →
      functions.definitionIndex? function = some 0

theorem isRanking (functions : FunctionSet) : functions.IsRanking where
  defined function := by
    rw [Option.isSome_iff_exists]
    constructor
    · rintro ⟨index, found⟩
      exact has_of_definitionIndex? found
    · intro has
      exact ⟨functions.higher function, definitionIndex?_of_has has⟩
  descending low high hasLow hasHigh order :=
    ⟨functions.higher low, functions.higher high, definitionIndex?_of_has hasLow,
      definitionIndex?_of_has hasHigh, higher_lt_higher hasLow hasHigh order⟩
  bijective := by
    refine ⟨fun function has => ?_, fun function has other hasOther same => ?_, ?_⟩
    · exact ⟨functions.higher function, higher_lt_count has, (definitionIndex?_of_has has).symm⟩
    · rw [definitionIndex?_of_has has, definitionIndex?_of_has hasOther, Option.some_inj] at same
      exact eq_of_higher_eq has hasOther same
    · rintro _ ⟨index, small, rfl⟩
      obtain ⟨position, set, rfl⟩ := exists_rank (small.trans_eq (card_places functions).symm)
      obtain ⟨function, single, has⟩ := exists_has set
      exact ⟨function, has, by rw [definitionIndex?_of_has has, higher_of_single single]⟩
  highest function has top := by
    have none : functions.higher function = 0 := by
      rw [higher, Finset.card_eq_zero, Finset.filter_eq_empty_iff]
      intro position set above
      obtain ⟨other, single, hasOther⟩ := exists_has set
      have bound := top other hasOther
      rw [UInt32.le_iff_toNat_le, single] at bound
      exact absurd above (Nat.not_lt.mpr bound)
    rw [definitionIndex?_of_has has, none]

/-- The functions of a storage device with a screen and a clock, from the highest down. -/
example : [timer, lcd, storage, mouse].map (union storage (union lcd timer)).definitionIndex? =
    [some 0, some 1, some 2, none] := by
  decide

end FunctionSet

/-! ## Definition words of a device -/

namespace DeviceInfo

variable {info : DeviceInfo} {function : FunctionSet}

/-- What a lookup of definition words finds. -/
structure FindsDefinitions (info : DeviceInfo) : Prop where
  /-- The word that is found for a function stands at the place the set gives it. -/
  found : ∀ function word, info.definitionFor? function = some word ↔
    ∃ place : Fin 3, info.functions.definitionIndex? function = some place.val ∧
      info.definitions[place] = word
  /-- Different functions have different places. -/
  apart : ∀ function other place, info.functions.definitionIndex? function = some place →
    info.functions.definitionIndex? other = some place → function = other
  /-- No word is found for what is no single function of the device, for a function with three
  or more above it, and for no other. -/
  absent : ∀ function, info.definitionFor? function = none ↔
    ¬ info.functions.Has function ∨ 3 ≤ info.functions.higher function

theorem definitionFor?_eq_some_iff {word : UInt32} :
    info.definitionFor? function = some word ↔
      ∃ place : Fin 3, info.functions.definitionIndex? function = some place.val ∧
        info.definitions[place] = word := by
  simp only [definitionFor?, bind, Option.bind_eq_some_iff, Vector.getElem?_eq_some_iff]
  constructor
  · rintro ⟨place, indexed, inside, rfl⟩
    exact ⟨⟨place, inside⟩, indexed, rfl⟩
  · rintro ⟨place, indexed, rfl⟩
    exact ⟨place.val, indexed, place.isLt, rfl⟩

theorem definitionFor?_eq_none_iff :
    info.definitionFor? function = none ↔
      ¬ info.functions.Has function ∨ 3 ≤ info.functions.higher function := by
  by_cases has : info.functions.Has function
  · simp only [definitionFor?, FunctionSet.definitionIndex?_of_has has, bind, Option.bind_some,
      Vector.getElem?_eq_none_iff, has, not_true_eq_false, false_or]
  · have none : info.functions.definitionIndex? function = none := by
      rw [Option.eq_none_iff_forall_ne_some]
      exact fun index found => has (FunctionSet.has_of_definitionIndex? found)
    simp [definitionFor?, none, has]

theorem findsDefinitions (info : DeviceInfo) : info.FindsDefinitions where
  found _ _ := definitionFor?_eq_some_iff
  apart function other place first second := by
    have has := FunctionSet.has_of_definitionIndex? first
    have hasOther := FunctionSet.has_of_definitionIndex? second
    exact info.functions.isRanking.bijective.injOn has hasOther (first.trans second.symm)
  absent _ := definitionFor?_eq_none_iff

end DeviceInfo

/-- The definition words of a device stand in the order of its functions, from the highest
down, each function at a place of its own. -/
theorem DeviceInfo.definitions_ranked :
    (∀ functions : FunctionSet, functions.IsRanking) ∧
      ∀ info : DeviceInfo, info.FindsDefinitions :=
  ⟨FunctionSet.isRanking, DeviceInfo.findsDefinitions⟩

end MapleBus
