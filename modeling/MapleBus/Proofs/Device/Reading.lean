import MapleBus.Proofs.Device.Serving

/-!
# Reading blocks

A block is read by a transfer of data that names the storage function and the block and
then carries words.  A storage device publishes a block for every such reply with at least
one word, cut to the size of a block.  So a published block is whole exactly when the
reply carried all its words, and a part of a block is published as if it were one.
-/

namespace MapleBus.Device.Storage

open Journal PlayerBus

variable {Q W : Type}

/-! ## Geometry -/

/-- The words of a block hold exactly its bytes. -/
theorem Geometry.four_mul_wordsPerBlock (definition : UInt32) :
    4 * (ofDefinition definition).wordsPerBlock =
      (ofDefinition definition).bytesPerBlock.toNat := by
  simp only [wordsPerBlock, ofDefinition, UInt16.toNat_ofNat']
  omega

theorem Geometry.wordsPerBlock_pos (definition : UInt32) :
    0 < (ofDefinition definition).wordsPerBlock := by
  simp only [wordsPerBlock, ofDefinition, UInt16.toNat_ofNat']
  omega

/-! ## Replies -/

/-- A reply transfers data words of a block: behind the storage function and a location
whose low half is the number of the block. -/
def Transfers (number : UInt16) (reply : Packet) (data : List UInt32) : Prop :=
  reply.command = .dataTransfer ∧ ∃ location,
    reply.payload.words = FunctionSet.storage.bits :: location :: data ∧
      location.toNat % 0x10000 = number.toNat

/-- The block that a device makes of data words. -/
def blockOf (storage : Storage) (number : UInt16) (data : List UInt32) : Block :=
  { number, data := Word.listToBytes (data.take storage.geometry.wordsPerBlock) }

variable {storage : Storage} {number : UInt16} {reply : Packet} {data : List UInt32}
  {block : Block}

theorem Transfers.unique {other : List UInt32} (transfers : Transfers number reply data)
    (again : Transfers number reply other) : data = other := by
  obtain ⟨-, location, words, -⟩ := transfers
  obtain ⟨-, otherLocation, otherWords, -⟩ := again
  rw [words] at otherWords
  exact (List.cons.inj (List.cons.inj otherWords).2).2

/-- A block has the bytes of its data words, as many as there are in a block. -/
theorem length_blockOf (storage : Storage) (number : UInt16) (data : List UInt32) :
    (storage.blockOf number data).data.length =
      min (4 * data.length) storage.geometry.bytesPerBlock.toNat := by
  have whole : 4 * storage.geometry.wordsPerBlock = storage.geometry.bytesPerBlock.toNat :=
    Geometry.four_mul_wordsPerBlock storage.definitionWord
  rw [blockOf, Word.length_listToBytes, List.length_take, ← whole]
  omega

/-- Data words of the block are taken for the block, unless there are none. -/
theorem interpret_of_transfers (storage : Storage) (transfers : Transfers number reply data) :
    interpret storage.geometry (.readBlock number) (some reply) =
      if data = [] then .error .malformed else .ok (.block (storage.blockOf number data)) := by
  obtain ⟨isData, location, words, addressed⟩ := transfers
  simp only [interpret, isData, words, if_true, readData, addressed, ne_eq, not_true_eq_false,
    false_or]
  rfl

/-- A transfer of data without data words of the block is malformed. -/
theorem interpret_of_stray (storage : Storage) (isData : reply.command = .dataTransfer)
    (stray : ∀ data, ¬ Transfers number reply data) :
    interpret storage.geometry (.readBlock number) (some reply) = .error .malformed := by
  simp only [interpret, isData]
  cases words : reply.payload.words with
  | nil => rfl
  | cons function rest =>
      simp only
      split
      · next named =>
          cases rest with
          | nil => rfl
          | cons location data =>
              have elsewhere : location.toNat % 0x10000 ≠ number.toNat := by
                intro addressed
                rw [named] at words
                exact stray data ⟨isData, location, words, addressed⟩
              simp only [readData, ne_eq, elsewhere, not_false_eq_true, true_or, if_true]
      · rfl

/-- Only a transfer of data is answered with a block. -/
theorem isData_of_block
    (answered : interpret storage.geometry (.readBlock number) (some reply) = .ok (.block block)) :
    reply.command = .dataTransfer := by
  simp only [interpret] at answered
  split at answered
  · assumption
  · contradiction
  · contradiction

/-- A block is published for a transfer of at least one data word of it. -/
theorem interpret_eq_block_iff :
    interpret storage.geometry (.readBlock number) (some reply) = .ok (.block block) ↔
      ∃ data, Transfers number reply data ∧ data ≠ [] ∧ block = storage.blockOf number data := by
  constructor
  · intro answered
    by_cases carried : ∃ data, Transfers number reply data
    · obtain ⟨data, transfers⟩ := carried
      rw [interpret_of_transfers storage transfers] at answered
      split at answered
      · contradiction
      · next filled =>
          cases answered
          exact ⟨data, transfers, filled, rfl⟩
    · rw [interpret_of_stray storage (isData_of_block answered) (not_exists.mp carried)] at answered
      contradiction
  · rintro ⟨data, transfers, filled, rfl⟩
    rw [interpret_of_transfers storage transfers, if_neg filled]

/-! ## Whole blocks -/

/-- A reply is answered with a block if and only if it carries the whole block. -/
structure ReadsWhole (storage : Storage) (number : UInt16) (reply : Packet) : Prop where
  block_iff :
    (∃ block, interpret storage.geometry (.readBlock number) (some reply) =
      .ok (.block block)) ↔
      ∃ data, Transfers number reply data ∧ storage.geometry.wordsPerBlock ≤ data.length
  /-- The block has the size of a block, and its bytes are those of the leading data words. -/
  whole : ∀ block,
    interpret storage.geometry (.readBlock number) (some reply) = .ok (.block block) →
      block.data.length = storage.geometry.bytesPerBlock.toNat ∧
        ∃ data, Transfers number reply data ∧ block = storage.blockOf number data
  /-- A transfer that carries less, or something else, is malformed. -/
  malformed : reply.command = .dataTransfer →
    (∀ data, Transfers number reply data → data.length < storage.geometry.wordsPerBlock) →
      interpret storage.geometry (.readBlock number) (some reply) = .error .malformed

/-- A reply carries a part of a block, and not the whole. -/
def CarriesPart (storage : Storage) (number : UInt16) (reply : Packet) : Prop :=
  ∃ data, Transfers number reply data ∧ data ≠ [] ∧
    data.length < storage.geometry.wordsPerBlock

/-- A part of a block is published, so not only whole blocks are. -/
theorem not_readsWhole_of_carriesPart (part : CarriesPart storage number reply) :
    ¬ ReadsWhole storage number reply := by
  rintro ⟨block_iff, -, -⟩
  obtain ⟨data, transfers, filled, short⟩ := part
  obtain ⟨other, again, long⟩ :=
    block_iff.mp ⟨_, interpret_eq_block_iff.mpr ⟨data, transfers, filled, rfl⟩⟩
  rw [← transfers.unique again] at long
  omega

/-- Every reply that carries no mere part of a block is answered as it should be. -/
theorem readsWhole_of_not_carriesPart (noPart : ¬ CarriesPart storage number reply) :
    ReadsWhole storage number reply := by
  have blockSize : 0 < storage.geometry.wordsPerBlock :=
    Geometry.wordsPerBlock_pos storage.definitionWord
  have bytes : 4 * storage.geometry.wordsPerBlock = storage.geometry.bytesPerBlock.toNat :=
    Geometry.four_mul_wordsPerBlock storage.definitionWord
  have enough : ∀ {data}, Transfers number reply data → data ≠ [] →
      storage.geometry.wordsPerBlock ≤ data.length := by
    intro data transfers filled
    by_contra short
    exact noPart ⟨data, transfers, filled, Nat.lt_of_not_le short⟩
  constructor
  · constructor
    · rintro ⟨block, answered⟩
      obtain ⟨data, transfers, filled, -⟩ := interpret_eq_block_iff.mp answered
      exact ⟨data, transfers, enough transfers filled⟩
    · rintro ⟨data, transfers, long⟩
      have filled : data ≠ [] := by
        rintro rfl
        exact absurd long (Nat.not_le_of_lt blockSize)
      exact ⟨_, interpret_eq_block_iff.mpr ⟨data, transfers, filled, rfl⟩⟩
  · intro block answered
    obtain ⟨data, transfers, filled, rfl⟩ := interpret_eq_block_iff.mp answered
    have long := enough transfers filled
    refine ⟨?_, data, transfers, rfl⟩
    rw [length_blockOf]
    omega
  · intro isData short
    by_cases carried : ∃ data, Transfers number reply data
    · obtain ⟨data, transfers⟩ := carried
      have empty : data = [] := by
        by_contra filled
        exact absurd (enough transfers filled) (Nat.not_le_of_lt (short data transfers))
      rw [interpret_of_transfers storage transfers, if_pos empty]
    · exact interpret_of_stray storage isData (not_exists.mp carried)

/-- What a storage device makes of the reply to the reading of a block. -/
structure Reads (storage : Storage) (number : UInt16) (reply : Packet) : Prop where
  /-- A transfer of data words of the block is published as the block, unless there are
  none. -/
  block_iff : ∀ block,
    interpret storage.geometry (.readBlock number) (some reply) = .ok (.block block) ↔
      ∃ data, Transfers number reply data ∧ data ≠ [] ∧ block = storage.blockOf number data
  /-- It has the bytes that the reply carries, up to the size of a block. -/
  size : ∀ data, Transfers number reply data →
    (storage.blockOf number data).data.length =
      min (4 * data.length) storage.geometry.bytesPerBlock.toNat
  /-- Every other transfer of data is malformed. -/
  malformed : reply.command = .dataTransfer →
    (∀ data, Transfers number reply data → data = []) →
      interpret storage.geometry (.readBlock number) (some reply) = .error .malformed
  /-- Only whole blocks are published, except for a reply that carries a part of the block. -/
  whole_iff : ReadsWhole storage number reply ↔ ¬ CarriesPart storage number reply
  /-- The answer is left in the mailbox when the exchange that reads the block succeeds. -/
  published : ∀ tx, storage.owned? tx = some (.readBlock number) →
    Written storage.mailbox (interpret storage.geometry (.readBlock number) (some reply))
      (storage.completed (some reply) tx).value.mailbox

/-- Whatever the geometry, the block and the reply are, a storage device publishes the data
words that the reply carries for the block, whole or not. -/
theorem reads_block (storage : Storage) (number : UInt16) (reply : Packet) :
    Reads storage number reply where
  block_iff := fun _ => interpret_eq_block_iff
  size := fun data _ => length_blockOf storage number data
  malformed := by
    intro isData nothing
    by_cases carried : ∃ data, Transfers number reply data
    · obtain ⟨data, transfers⟩ := carried
      rw [interpret_of_transfers storage transfers, if_pos (nothing data transfers)]
    · exact interpret_of_stray storage isData (not_exists.mp carried)
  whole_iff :=
    ⟨fun reads part => not_readsWhole_of_carriesPart part reads, readsWhole_of_not_carriesPart⟩
  published := by
    intro tx owned
    rw [completed_of_owned owned]
    exact written_publish _ _

/-! ## Runs -/

/-- A record of a tale brings a reply that a block was made of. -/
def Brings (storage : Storage) (block : Block) (record : Record Storage Q Call)
    (earlier : Tale Storage Q Call) : Prop :=
  ∃ reply data, Tale.ending? record earlier = some (.succeeded (some reply)) ∧
    Transfers block.number reply data ∧ data ≠ [] ∧ block = storage.blockOf block.number data

/-- An answer that is a block is made of a reply. -/
theorem brings_of_answer? {origin : Storage} {record : Record Storage Q Call}
    {earlier : Tale Storage Q Call}
    (answers : answer? origin record earlier = some (.ok (.block block))) :
    Brings origin block record earlier := by
  obtain ⟨status, ends, answers⟩ := Option.bind_eq_some_iff.mp answers
  obtain ⟨case, -, answers⟩ := Option.bind_eq_some_iff.mp answers
  cases status with
  | pending | sent => contradiction
  | failed failure =>
      simp only [Case.answer?] at answers
      split at answers <;> cases answers
  | succeeded reply =>
      have read := Option.some.inj answers
      cases reply with
      | none => contradiction
      | some reply =>
          rw [number_of_interpret read] at read
          obtain ⟨data, transfers, filled, made⟩ := interpret_eq_block_iff.mp read
          exact ⟨reply, data, ends, transfers, filled, made⟩

/-- A block that a tale leaves in the mailbox was there in the beginning, or a reply of the
tale brought it. -/
theorem brings_of_contents {origin : Storage} {tale : Tale Storage Q Call}
    (found : (contents origin tale).block = some block) :
    origin.mailbox.block = some block ∨
      ∃ record earlier, record :: earlier <:+ tale ∧ Brings origin block record earlier := by
  induction tale with
  | nil => exact Or.inl found
  | cons record earlier ih =>
      -- Unless this record brings it, the block was left by an earlier one.
      have onward (before : (contents origin earlier).block = some block) :
          origin.mailbox.block = some block ∨ ∃ other others,
            other :: others <:+ record :: earlier ∧ Brings origin block other others := by
        rcases ih before with first | ⟨other, others, within, brings⟩
        · exact Or.inl first
        · exact Or.inr ⟨other, others, within.trans (List.suffix_cons _ _), brings⟩
      cases record with
      | called device call =>
          cases call with
          | ask request =>
              rw [contents] at found
              split at found <;> exact onward found
          | takeBlock => contradiction
          | takeFault => exact onward found
      | entry entry =>
          rw [contents] at found
          cases answers : answer? origin (.entry entry) earlier with
          | none =>
              rw [answers] at found
              exact onward found
          | some result =>
              rw [answers] at found
              rcases result with fault | media | published
              · exact onward found
              · exact onward found
              · cases found
                exact Or.inr ⟨_, earlier, List.suffix_refl _, brings_of_answer? answers⟩

/-- In every run with calls in which none of its pending work is cancelled, a block in the
mailbox of a storage device is made of the data words of a reply that ended one of its
transmissions. -/
theorem blocks_after [Peripheral Q] [Wire W] (stationary : Stationary Q) {origin : Storage}
    {telling : Telling Storage Q W Call} (recounts : telling.Recounts serve origin)
    (idle : origin.inFlight = none) (fresh : origin.attempts = 0)
    (blank : origin.mailbox.block = none)
    (undisturbed : dropped anything telling.session.journal = []) :
    ∃ storage, telling.session.bus.peripherals.filterMap Sum.getLeft? = [storage] ∧
      ∀ block, storage.mailbox.block = some block →
        ∃ record earlier, record :: earlier <:+ telling.tale ∧
          Brings origin block record earlier := by
  have nothing : follower.held origin = none := Option.map_eq_none_iff.mpr idle
  obtain ⟨-, storage, alone, attends⟩ :=
    recounts.attends stationary (upkeep origin) nothing (.start fresh) undisturbed
  refine ⟨storage, alone, ?_⟩
  intro block found
  rw [attends.keeps.mailbox] at found
  rcases brings_of_contents found with first | brought
  · rw [blank] at first
    contradiction
  · exact brought

/-! ## A part of a block -/

/-- A standard memory card, whose blocks are read in one phase and fit one reply. -/
def memoryCard : Storage :=
  { address := ⟨0x01⟩, player := {}, definitionWord := memoryCardDefinition }

/-- A reply with the first word of the seventh block. -/
def cutShort : Packet :=
  .carrying .dataTransfer (.host 0) ⟨0x01⟩ [FunctionSet.storage.bits, 7, 0x01020304]

/-- One word of a block of 128 words is published as the block. -/
theorem not_readsWhole_cutShort :
    memoryCard.geometry.readAccesses = 1 ∧ memoryCard.geometry.wordsPerBlock ≤ 253 ∧
      ¬ ReadsWhole memoryCard 7 cutShort := by
  refine ⟨by decide, by decide, ?_⟩
  rintro ⟨-, whole, -⟩
  have published : interpret memoryCard.geometry (.readBlock 7) (some cutShort) =
      .ok (.block { number := 7, data := [1, 2, 3, 4] }) := by
    decide
  have size := (whole _ published).1
  have expected : memoryCard.geometry.bytesPerBlock.toNat = 512 := by decide
  rw [expected] at size
  contradiction

end MapleBus.Device.Storage
