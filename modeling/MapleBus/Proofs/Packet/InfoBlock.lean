import MapleBus.DeviceInfo

/-!
# The block of a device and its words

Writing puts the fields of a block one behind the other and packs the bytes
into words; reading copies the words' bytes into a storage of its own and takes
field after field from its front.  The fields fill the 112 bytes without a gap
and every field can hold any bytes.  So every 112 bytes are the block of exactly
one device, and words and device determine each other.
-/

namespace MapleBus.DeviceInfo

open Packet (Cursor)

variable {info : DeviceInfo} {cursor : Cursor} {bytes later : List UInt8}

/-! ## The two currents -/

theorem currentOfBytes_currentBytes (current : UInt16) :
    currentOfBytes (currentBytes current) = current := by
  apply UInt16.toNat_inj.mp
  have bound := current.toNat_lt
  change (UInt16.ofNat ((UInt8.ofNat current.toNat).toNat +
    256 * (UInt8.ofNat (current.toNat / 256)).toNat)).toNat = current.toNat
  simp only [UInt16.toNat_ofNat', UInt8.toNat_ofNat']
  omega

theorem currentBytes_currentOfBytes (low high : UInt8) :
    currentBytes (currentOfBytes #v[low, high]) = #v[low, high] := by
  have lowBound := low.toNat_lt
  have highBound := high.toNat_lt
  apply Vector.toList_inj.mp
  change [UInt8.ofNat (UInt16.ofNat (low.toNat + 256 * high.toNat)).toNat,
    UInt8.ofNat ((UInt16.ofNat (low.toNat + 256 * high.toNat)).toNat / 256)] = [low, high]
  simp only [UInt16.toNat_ofNat', List.cons.injEq, and_true]
  constructor <;> apply UInt8.toNat_inj.mp <;> simp only [UInt8.toNat_ofNat'] <;> omega

/-! ## Reading what was written -/

/-- A word is read from its four bytes. -/
theorem word_of_toBytes {word : UInt32} (next : cursor.unread = Word.toBytes word ++ later) :
    ∃ rest, cursor.word = .ok (word, rest) ∧ rest.unread = later := by
  obtain ⟨rest, taken, behind⟩ := Cursor.word_of_unread next
  rw [Word.ofBytes_toBytes] at taken
  exact ⟨rest, taken, behind⟩

theorem exists_definitions (definitions : Vector UInt32 3) :
    ∃ first second third, definitions = #v[first, second, third] := by
  refine ⟨definitions[0], definitions[1], definitions[2], ?_⟩
  ext index bound
  match index, bound with
  | 0, _ => rfl
  | 1, _ => rfl
  | 2, _ => rfl

/-- Reading takes a written block apart into the fields it was put together from,
whatever bytes follow it. -/
theorem read_of_unread (next : cursor.unread = info.toBytes ++ later) :
    read cursor = .ok info := by
  obtain ⟨functions, definitions, region, direction, description, producer, standby, largest⟩ :=
    info
  obtain ⟨first, second, third, rfl⟩ := exists_definitions definitions
  replace next : cursor.unread =
      Word.toBytes functions.bits ++ (Word.toBytes first ++ (Word.toBytes second ++
        (Word.toBytes third ++ (region :: direction :: (description.toList ++
          (producer.toList ++ ((currentBytes standby).toList ++
            ((currentBytes largest).toList ++ later)))))))) := by
    simpa [toBytes, List.append_assoc] using next
  obtain ⟨afterFunctions, functionsRead, next⟩ := word_of_toBytes next
  obtain ⟨afterFirst, firstRead, next⟩ := word_of_toBytes next
  obtain ⟨afterSecond, secondRead, next⟩ := word_of_toBytes next
  obtain ⟨afterThird, thirdRead, next⟩ := word_of_toBytes next
  obtain ⟨afterRegion, regionRead, next⟩ := Cursor.byte_of_unread next
  obtain ⟨afterDirection, directionRead, next⟩ := Cursor.byte_of_unread next
  obtain ⟨afterDescription, descriptionRead, next⟩ := Cursor.field_of_unread next
  obtain ⟨afterProducer, producerRead, next⟩ := Cursor.field_of_unread next
  obtain ⟨afterStandby, standbyRead, next⟩ := Cursor.field_of_unread next
  obtain ⟨_, largestRead, _⟩ := Cursor.field_of_unread next
  simp only [read, functionsRead, firstRead, secondRead, thirdRead, regionRead, directionRead,
    descriptionRead, producerRead, standbyRead, largestRead, currentOfBytes_currentBytes,
    bind, Except.bind]

/-! ## Every block is some device's -/

theorem exists_word {more : Nat} (whole : bytes.length = more + 4) :
    ∃ word rest, bytes = Word.toBytes word ++ rest ∧ rest.length = more := by
  obtain ⟨first, second, third, fourth, rest, rfl, left⟩ := Word.exists_four whole
  refine ⟨Word.ofBytes first second third fourth, rest, ?_, left⟩
  rw [Word.toBytes_ofBytes]
  rfl

theorem exists_current {more : Nat} (whole : bytes.length = more + 2) :
    ∃ current rest, bytes = (currentBytes current).toList ++ rest ∧ rest.length = more := by
  match bytes, whole with
  | low :: high :: rest, whole =>
      exact ⟨currentOfBytes #v[low, high], rest,
        by rw [currentBytes_currentOfBytes]; rfl, by simpa using whole⟩

theorem exists_field (width : Nat) {more : Nat} (whole : bytes.length = more + width) :
    ∃ (field : Vector UInt8 width) (rest : List UInt8),
      bytes = field.toList ++ rest ∧ rest.length = more := by
  refine ⟨⟨(bytes.take width).toArray, ?_⟩, bytes.drop width, ?_, ?_⟩
  · simp [whole]
  · exact (List.take_append_drop width bytes).symm
  · simp [whole]

/-- Every 112 bytes are the block of some device. -/
theorem exists_toBytes (whole : bytes.length = 112) :
    ∃ info : DeviceInfo, info.toBytes = bytes := by
  obtain ⟨functions, bytes₁, rfl, whole₁⟩ := exists_word whole
  obtain ⟨first, bytes₂, rfl, whole₂⟩ := exists_word whole₁
  obtain ⟨second, bytes₃, rfl, whole₃⟩ := exists_word whole₂
  obtain ⟨third, bytes₄, rfl, whole₄⟩ := exists_word whole₃
  match bytes₄, whole₄ with
  | region :: direction :: bytes₅, whole₅ =>
      replace whole₅ : bytes₅.length = 94 := Nat.succ.inj (Nat.succ.inj whole₅)
      obtain ⟨description, bytes₆, rfl, whole₆⟩ := exists_field descriptionLength whole₅
      obtain ⟨producer, bytes₇, rfl, whole₇⟩ := exists_field producerLength whole₆
      obtain ⟨standby, bytes₈, rfl, whole₈⟩ := exists_current whole₇
      obtain ⟨largest, bytes₉, rfl, whole₉⟩ := exists_current whole₈
      obtain rfl := List.length_eq_zero_iff.mp whole₉
      exact ⟨⟨⟨functions⟩, #v[first, second, third], region, direction, description, producer,
        standby, largest⟩, by simp [toBytes]⟩

/-! ## Words and devices -/

variable {words : List UInt32} {version : String}

@[simp]
theorem listToBytes_toWords : Word.listToBytes info.toWords = info.toBytes :=
  Word.listToBytes_pack wordCount info.toBytes info.length_toBytes

@[simp]
theorem listToBytes_toExtWords :
    Word.listToBytes (info.toExtWords version) =
      info.toBytes ++ (Text.pad versionLength version).toList :=
  Word.listToBytes_pack extWordCount _ (by simp [versionLength, extWordCount])

/-- Words say a device when their bytes begin with its block. -/
theorem ofWords_of_listToBytes (written : Word.listToBytes words = info.toBytes ++ later) :
    ofWords words = .ok info := by
  have enough : ¬ words.length < wordCount := by
    have lengths := congrArg List.length written
    simp only [Word.length_listToBytes, List.length_append, length_toBytes] at lengths
    unfold wordCount
    omega
  have block := Cursor.ofFn_getD_append 0 later info.length_toBytes
  rw [← written] at block
  rw [ofWords, if_neg enough]
  exact read_of_unread (block.trans (List.append_nil info.toBytes).symm)

theorem ofWords_toWords : ofWords info.toWords = .ok info :=
  ofWords_of_listToBytes (by rw [listToBytes_toWords, List.append_nil])

theorem ofWords_toExtWords : ofWords (info.toExtWords version) = .ok info :=
  ofWords_of_listToBytes listToBytes_toExtWords

/-- The version text stands behind the block. -/
theorem extVersion?_toExtWords :
    extVersion? (info.toExtWords version) = some (Text.pad versionLength version) := by
  have behind : (Word.listToBytes (info.toExtWords version)).drop (wordCount * 4) =
      (Text.pad versionLength version).toList := by
    rw [listToBytes_toExtWords]
    exact List.drop_left' info.length_toBytes
  have field := Cursor.ofFn_getD_toList (Text.pad versionLength version) 0x20
  rw [← behind] at field
  rw [extVersion?, if_neg (by simp)]
  exact congrArg some field

/-- The extended block begins with the block. -/
theorem take_toExtWords : (info.toExtWords version).take wordCount = info.toWords := by
  have packed := Word.pack_append wordCount 20 info.toBytes
    (Text.pad versionLength version).toList info.length_toBytes
  have extended : info.toExtWords version =
      info.toWords ++ Word.pack 20 (Text.pad versionLength version).toList :=
    packed
  rw [extended, List.take_left' info.length_toWords]

/-- Enough words begin with the block of some device. -/
theorem exists_toWords (enough : wordCount ≤ words.length) :
    ∃ info : DeviceInfo, info.toWords = words.take wordCount := by
  have length : (words.take wordCount).length = wordCount := by simp [enough]
  have whole : (Word.listToBytes (words.take wordCount)).length = 112 := by
    rw [Word.length_listToBytes, length]
    rfl
  obtain ⟨info, block⟩ := exists_toBytes whole
  refine ⟨info, ?_⟩
  have packed := Word.pack_listToBytes_append (words.take wordCount) []
  rw [List.append_nil, ← block, length] at packed
  exact packed

/-- What is read from the words written for a device. -/
structure ReadBack (info : DeviceInfo) (version : String) : Prop where
  /-- The words of the block say the device. -/
  plain : ofWords info.toWords = .ok info
  /-- So do those of the extended block. -/
  extended : ofWords (info.toExtWords version) = .ok info
  /-- The extended block begins with the block. -/
  front : (info.toExtWords version).take wordCount = info.toWords
  /-- It ends with the version text, in a field of its width. -/
  version : extVersion? (info.toExtWords version) = some (Text.pad versionLength version)

/-- What is written for the device read from some words. -/
structure WrittenBack (words : List UInt32) : Prop where
  /-- Whatever enough words contain, they say a device, whose block they begin with. -/
  enough : wordCount ≤ words.length →
    ∃ info, ofWords words = .ok info ∧ info.toWords = words.take wordCount
  /-- Fewer words are refused, with the bytes that are needed and those that are there. -/
  short : words.length < wordCount → ofWords words = .error (.framing 112 (4 * words.length))

/-- Devices and the 28 words of their blocks determine each other: reading inverts writing,
with and without a version text behind the block, and writing inverts reading. -/
theorem words_determine :
    (∀ (info : DeviceInfo) (version : String), info.ReadBack version) ∧
      ∀ words : List UInt32, WrittenBack words := by
  refine ⟨fun info version => ?_, fun words => ?_⟩
  · exact ⟨ofWords_toWords, ofWords_toExtWords, take_toExtWords, extVersion?_toExtWords⟩
  · constructor
    · intro enough
      obtain ⟨info, written⟩ := exists_toWords enough
      have split : Word.listToBytes words =
          info.toBytes ++ Word.listToBytes (words.drop wordCount) := by
        rw [← listToBytes_toWords, written, ← Word.listToBytes_append, List.take_append_drop]
      exact ⟨info, ofWords_of_listToBytes split, written⟩
    · intro short
      rw [ofWords, if_pos short, Nat.mul_comm words.length 4]
      rfl

/-- Region, side of the connector and the first letters of the name share a word; the two
currents fill the last one, each with its low byte first. -/
example :
    let words :=
      (describing .controller #v[0x000F06FE, 0, 0] "Dreamcast Controller").toWords
    words[4]? = some 0xFF004472 ∧ words[27]? = some 0xAE01F401 := by
  decide +kernel

end MapleBus.DeviceInfo
