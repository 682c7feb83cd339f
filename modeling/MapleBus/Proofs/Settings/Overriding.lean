import MapleBus.Settings.Overrides
import Mathlib.Data.List.Induction
import Mathlib.Data.Nat.Digits.Defs

/-!
# What overrides do to settings

A text names a number when it is an optional plus sign and one or more digits, with white
space at either end.  An override whose text names a number in the range of its setting
replaces the setting by that number; every other text, and no text at all, leaves it as it was.
Each setting depends on its own text only, and no text turns valid settings into invalid ones.
-/

namespace MapleBus

namespace Text

variable {text : String} {characters front core back : List Char} {number : Nat}

/-! ## White space at the ends -/

theorem dropWhile_append {blank : Char → Bool} (all : ∀ character ∈ front, blank character)
    (first : ∀ character ∈ core.head?, blank character = false) :
    (front ++ core).dropWhile blank = core := by
  rw [List.dropWhile_append_of_pos all]
  cases core with
  | nil => rfl
  | cons character rest => exact List.dropWhile_cons_of_neg (by simp [first character rfl])

/-- Only white space is left out, and only at the ends. -/
theorem exists_trimmed (text : String) :
    ∃ front back, text.toList = front ++ trimmed text ++ back ∧
      (∀ character ∈ front, isBlank character) ∧ ∀ character ∈ back, isBlank character := by
  have behind := List.takeWhile_append_dropWhile (p := isBlank) (l := text.toList)
  have before := List.takeWhile_append_dropWhile (p := isBlank)
    (l := (text.toList.dropWhile isBlank).reverse)
  refine ⟨text.toList.takeWhile isBlank,
    ((text.toList.dropWhile isBlank).reverse.takeWhile isBlank).reverse, ?_, ?_, ?_⟩
  · have kept : text.toList.dropWhile isBlank = trimmed text ++
        ((text.toList.dropWhile isBlank).reverse.takeWhile isBlank).reverse := by
      rw [trimmed, ← List.reverse_append, before, List.reverse_reverse]
    rw [List.append_assoc, ← kept, behind]
  · exact List.all_eq_true.mp List.all_takeWhile
  · intro character mem
    rw [List.mem_reverse] at mem
    exact List.all_eq_true.mp List.all_takeWhile character mem

/-- What stands between white space is left when none of it is white space. -/
theorem trimmed_of_split (split : text.toList = front ++ core ++ back) (filled : core ≠ [])
    (blankFront : ∀ character ∈ front, isBlank character)
    (blankBack : ∀ character ∈ back, isBlank character)
    (solid : ∀ character ∈ core, isBlank character = false) : trimmed text = core := by
  have last : (core ++ back).reverse.dropWhile isBlank = core.reverse := by
    rw [List.reverse_append]
    refine dropWhile_append ?_ ?_
    · intro character mem
      exact blankBack character (List.mem_reverse.mp mem)
    · intro character first
      exact solid character (List.mem_reverse.mp (List.mem_of_mem_head? first))
  have first : text.toList.dropWhile isBlank = core ++ back := by
    rw [split, List.append_assoc]
    refine dropWhile_append blankFront fun character head => ?_
    obtain ⟨edge, rest, rfl⟩ := List.exists_cons_of_ne_nil filled
    obtain rfl : edge = character := Option.some.inj head
    exact solid edge List.mem_cons_self
  rw [trimmed, first, last, List.reverse_reverse]

/-! ## Numerals -/

namespace Numeral

/-- One or more ASCII digits denote a number, the most significant one first. -/
def Denotes (digits : List Char) (number : Nat) : Prop :=
  digits ≠ [] ∧ (∀ digit ∈ digits, digit.isDigit) ∧
    number = Nat.ofDigits 10 (digits.reverse.map fun digit => digit.toNat - '0'.toNat)

theorem isDigit_eq : isDigit = Char.isDigit :=
  rfl

theorem value_eq (digits : List Char) :
    value digits = Nat.ofDigits 10 (digits.reverse.map fun digit => digit.toNat - '0'.toNat) := by
  induction digits using List.reverseRecOn with
  | nil => rfl
  | append_singleton front digit ih =>
      rw [value, List.foldl_append, List.reverse_append]
      change value front * 10 + (digit.toNat - '0'.toNat) = _
      rw [ih, Nat.add_comm, Nat.mul_comm]
      rfl

theorem read?_eq_some_iff : read? characters = some number ↔ Denotes characters number := by
  rw [read?, Denotes, ← value_eq, Option.ite_none_right_eq_some, List.all_eq_true, isDigit_eq,
    and_assoc, Option.some_inj, eq_comm (a := number)]

/-- A numeral may have a plus sign in front. -/
theorem readSigned?_eq_some_iff :
    readSigned? characters = some number ↔
      ∃ sign digits, characters = sign ++ digits ∧ (sign = [] ∨ sign = ['+']) ∧
        Denotes digits number := by
  have plus : ∀ digits, ¬ Denotes ('+' :: digits) number := by
    rintro digits ⟨-, all, -⟩
    exact absurd (all '+' List.mem_cons_self) (by decide)
  constructor
  · intro read
    unfold readSigned? at read
    split at read
    · next digits => exact ⟨['+'], digits, rfl, .inr rfl, read?_eq_some_iff.mp read⟩
    · exact ⟨[], characters, rfl, .inl rfl, read?_eq_some_iff.mp read⟩
  · rintro ⟨sign, digits, rfl, rfl | rfl, denotes⟩
    · rw [List.nil_append, readSigned?]
      · exact read?_eq_some_iff.mpr denotes
      · rintro others rfl
        exact plus others denotes
    · exact read?_eq_some_iff.mpr denotes

end Numeral

/-- A text is an optional plus sign and digits that denote a number, but for white space at its
ends. -/
def Names (text : String) (number : Nat) : Prop :=
  ∃ front sign digits back, text.toList = front ++ (sign ++ digits) ++ back ∧
    (∀ character ∈ front, isBlank character) ∧ (∀ character ∈ back, isBlank character) ∧
      (sign = [] ∨ sign = ['+']) ∧ Numeral.Denotes digits number

theorem isBlank_of_isDigit {character : Char} (digit : character.isDigit) :
    isBlank character = false := by
  have range : 48 ≤ character.toNat ∧ character.toNat ≤ 57 := Char.isDigit_iff_toNat.mp digit
  simp only [isBlank, blankRanges, List.any_cons, List.any_nil, Bool.or_false,
    Bool.or_eq_false_iff, Bool.and_eq_false_iff, decide_eq_false_iff_not]
  omega

/-- Reading a text without the white space at its ends finds the number it names. -/
theorem readSigned?_trimmed_eq_some_iff :
    Numeral.readSigned? (trimmed text) = some number ↔ Names text number := by
  rw [Numeral.readSigned?_eq_some_iff]
  constructor
  · rintro ⟨sign, digits, split, signed, denotes⟩
    obtain ⟨front, back, whole, blankFront, blankBack⟩ := exists_trimmed text
    rw [split] at whole
    exact ⟨front, sign, digits, back, whole, blankFront, blankBack, signed, denotes⟩
  · rintro ⟨front, sign, digits, back, whole, blankFront, blankBack, signed, denotes⟩
    refine ⟨sign, digits, ?_, signed, denotes⟩
    refine trimmed_of_split whole ?_ blankFront blankBack ?_
    · exact List.append_ne_nil_of_right_ne_nil sign denotes.1
    · intro character mem
      rcases List.mem_append.mp mem with inSign | inDigits
      · rcases signed with rfl | rfl
        · cases inSign
        · rw [List.mem_singleton.mp inSign]
          decide
      · exact isBlank_of_isDigit (denotes.2.1 character inDigits)

end Text

namespace Settings

variable {settings : Settings} {lookup : String → Option String} {text? : Option String}
  {text : String} {low high base result number : Nat}

/-! ## One setting -/

/-- A setting that a text may override within bounds. -/
structure Follows (text? : Option String) (low high base result : Nat) : Prop where
  /-- It is the number that the text names, if that is within the bounds. -/
  takes : ∀ text number, text? = some text → Text.Names text number → low ≤ number →
    number ≤ high → result = number
  /-- Otherwise it is what it was. -/
  keeps : (¬ ∃ text number, text? = some text ∧ Text.Names text number ∧ low ≤ number ∧
    number ≤ high) → result = base

theorem readOverride?_eq_some_iff :
    readOverride? low high text = some number ↔
      Text.Names text number ∧ low ≤ number ∧ number ≤ high := by
  rw [readOverride?, Option.filter_eq_some_iff, Text.readSigned?_trimmed_eq_some_iff,
    decide_eq_true_iff]

/-- What is noted on the way has no influence on the value. -/
theorem value_override? (lookup : String → Option String) (variableName : String)
    (low high : Nat) :
    (override? lookup variableName low high).value =
      (lookup variableName).bind (readOverride? low high) := by
  unfold override?
  cases lookup variableName with
  | none => rfl
  | some text =>
      simp only [Option.bind_some]
      cases readOverride? low high text <;> rfl

/-- Whatever word a setting is kept in, it follows its text if the word can hold the numbers
within the bounds. -/
theorem follows_override {Word : Type} {ofNat : Nat → Word} {toNat : Word → Nat}
    (holds : ∀ number ≤ high, toNat (ofNat number) = number) (base : Word) :
    Follows text? low high (toNat base)
      (toNat (((text?.bind (readOverride? low high)).map ofNat).getD base)) where
  takes text number found names atLeast atMost := by
    have read := readOverride?_eq_some_iff.mpr ⟨names, atLeast, atMost⟩
    rw [found, Option.bind_some, read, Option.map_some, Option.getD_some]
    exact holds number atMost
  keeps missing := by
    have none : text?.bind (readOverride? low high) = none := by
      rw [Option.eq_none_iff_forall_ne_some]
      intro number read
      obtain ⟨text, found, named⟩ := Option.bind_eq_some_iff.mp read
      exact missing ⟨text, number, found, readOverride?_eq_some_iff.mp named⟩
    rw [none, Option.map_none, Option.getD_none]

/-- A setting whose bounds leave zero out is not zero unless it was. -/
theorem Follows.pos (follows : Follows text? low high base result) (bound : 0 < low)
    (valid : 0 < base) : 0 < result := by
  by_cases named : ∃ text number, text? = some text ∧ Text.Names text number ∧ low ≤ number ∧
      number ≤ high
  · obtain ⟨text, number, found, names, atLeast, atMost⟩ := named
    rw [follows.takes text number found names atLeast atMost]
    exact Nat.lt_of_lt_of_le bound atLeast
  · rw [follows.keeps named]
    exact valid

/-! ## All settings -/

theorem toNat_ofNat64 (number : Nat) (fits : number ≤ 0xFFFFFFFFFFFFFFFF) :
    (UInt64.ofNat number).toNat = number :=
  UInt64.toNat_ofNat_of_lt' (Nat.lt_succ_of_le fits)

theorem toNat_ofNat32 (number : Nat) (fits : number ≤ 0xFFFFFFFF) :
    (UInt32.ofNat number).toNat = number :=
  UInt32.toNat_ofNat_of_lt' (Nat.lt_succ_of_le fits)

theorem validate_eq_ok_iff :
    settings.validate = .ok () ↔ settings.playerIndex < Address.maxPlayers ∧
      0 < settings.timing.reportPeriod.toNat ∧ 0 < settings.failureWarnThreshold.toNat := by
  have positive : 0 < settings.timing.reportPeriod.toNat ↔ settings.timing.reportPeriod ≠ 0 := by
    rw [Nat.pos_iff_ne_zero, ne_eq, ne_eq, ← UInt64.toNat_inj]
    rfl
  have atLeastOne : 0 < settings.failureWarnThreshold.toNat ↔
      settings.failureWarnThreshold ≠ 0 := by
    rw [Nat.pos_iff_ne_zero, ne_eq, ne_eq, ← UInt32.toNat_inj]
    rfl
  rw [positive, atLeastOne, ← UInt8.not_le, validate]
  split
  · next fault => simp [fault]
  · next player =>
      split
      · next fault => simp [fault]
      · next period =>
          split
          · next fault => simp [fault]
          · next threshold => exact iff_of_true rfl ⟨player, period, threshold⟩

/-- What settings are after overrides. -/
structure IsOverridden (settings : Settings) (lookup : String → Option String)
    (result : Settings) : Prop where
  /-- Nothing overrides the player. -/
  player : result.playerIndex = settings.playerIndex
  /-- The report period is a positive number of sixty-four bits. -/
  reportPeriod : Follows (lookup reportPeriodVariable) 1 0xFFFFFFFFFFFFFFFF
    settings.timing.reportPeriod.toNat result.timing.reportPeriod.toNat
  /-- The identification period may be zero. -/
  identifyPeriod : Follows (lookup identifyPeriodVariable) 0 0xFFFFFFFFFFFFFFFF
    settings.timing.identifyPeriod.toNat result.timing.identifyPeriod.toNat
  /-- The threshold is a positive number of thirty-two bits. -/
  threshold : Follows (lookup failureWarnThresholdVariable) 1 0xFFFFFFFF
    settings.failureWarnThreshold.toNat result.failureWarnThreshold.toNat
  /-- Valid settings stay valid. -/
  valid : settings.validate = .ok () → result.validate = .ok ()

/-- Settings whose period and threshold follow texts are valid if they were. -/
theorem validate_of_follows {settings result : Settings} {other? : Option String}
    {most otherMost : Nat} (player : result.playerIndex = settings.playerIndex)
    (period : Follows text? 1 most settings.timing.reportPeriod.toNat
      result.timing.reportPeriod.toNat)
    (threshold : Follows other? 1 otherMost settings.failureWarnThreshold.toNat
      result.failureWarnThreshold.toNat)
    (valid : settings.validate = .ok ()) : result.validate = .ok () := by
  rw [validate_eq_ok_iff] at valid ⊢
  obtain ⟨known, validPeriod, validThreshold⟩ := valid
  exact ⟨player ▸ known, period.pos Nat.one_pos validPeriod,
    threshold.pos Nat.one_pos validThreshold⟩

/-- Whatever texts are looked up, each setting follows its own. -/
theorem withOverrides_isOverridden (settings : Settings) (lookup : String → Option String) :
    IsOverridden settings lookup (settings.withOverrides lookup).value := by
  simp only [withOverrides, Logged.value_bind, Logged.value_pure, value_override?]
  have reportPeriod : Follows (lookup reportPeriodVariable) 1 _ _ _ :=
    follows_override toNat_ofNat64 settings.timing.reportPeriod
  have identifyPeriod : Follows (lookup identifyPeriodVariable) 0 _ _ _ :=
    follows_override toNat_ofNat64 settings.timing.identifyPeriod
  have threshold : Follows (lookup failureWarnThresholdVariable) 1 _ _ _ :=
    follows_override toNat_ofNat32 settings.failureWarnThreshold
  exact ⟨rfl, reportPeriod, identifyPeriod, threshold,
    validate_of_follows rfl reportPeriod threshold⟩

/-- A sign, leading zeros and white space around them change nothing; white space between digits
makes the text name no number. -/
example :
    readOverride? 1 0xFFFFFFFF "\t+0012\u2003" = some 12 ∧
      readOverride? 1 0xFFFFFFFF "1 2" = none ∧
        readOverride? 1 0xFFFFFFFF "4294967296" = none := by
  decide +kernel

end Settings

end MapleBus
