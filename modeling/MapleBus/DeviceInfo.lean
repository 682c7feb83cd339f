import MapleBus.Error
import MapleBus.FunctionSet
import MapleBus.Packet.Cursor
import MapleBus.Text.Padded

/-!
# Device information

The block by which a device describes itself takes 28 words: the function
set, three definition words, and 96 bytes that hold region, connector
direction, product name, producer and current draw.  The extended block
appends a version text of 80 bytes.  Words are big-endian; only the two
currents are written least significant byte first.
-/

namespace MapleBus

/-- Bytes of the product name. -/
abbrev DeviceInfo.descriptionLength : Nat := 30

/-- Bytes of the producer. -/
abbrev DeviceInfo.producerLength : Nat := 60

/-- Bytes of the version text. -/
abbrev DeviceInfo.versionLength : Nat := 80

/-- What a device tells about itself. -/
structure DeviceInfo where
  functions : FunctionSet
  /-- One definition per function, highest function first. -/
  definitions : Vector UInt32 3
  region : UInt8
  /-- The side of the device its connector is on. -/
  direction : UInt8
  description : Vector UInt8 DeviceInfo.descriptionLength
  producer : Vector UInt8 DeviceInfo.producerLength
  /-- Current draw at rest, in tenths of a milliampere. -/
  standbyCurrent : UInt16
  /-- Largest current draw, in tenths of a milliampere. -/
  maxCurrent : UInt16
  deriving DecidableEq, Repr

namespace DeviceInfo

/-- Words in the block. -/
def wordCount : Nat := 28

/-- Words in the extended block. -/
def extWordCount : Nat := 48

/-- The region byte that every console accepts. -/
def allRegions : UInt8 := 0xFF

/-- The producer text of first-party devices. -/
def firstPartyProducer : String :=
  "Produced By or Under License From SEGA ENTERPRISES,LTD."

/-- The information of a device for every region that draws as much current as
a controller. -/
def describing (functions : FunctionSet) (definitions : Vector UInt32 3)
    (description : String) (producer : String := firstPartyProducer) : DeviceInfo where
  functions
  definitions
  region := allRegions
  direction := 0
  description := Text.pad descriptionLength description
  producer := Text.pad producerLength producer
  standbyCurrent := 0x01AE
  maxCurrent := 0x01F4

/-- A sixteen-bit word, least significant byte first. -/
def currentBytes (current : UInt16) : Vector UInt8 2 :=
  #v[UInt8.ofNat current.toNat, UInt8.ofNat (current.toNat / 256)]

/-- The word whose bytes are given least significant first. -/
def currentOfBytes (bytes : Vector UInt8 2) : UInt16 :=
  UInt16.ofNat (bytes[0].toNat + 256 * bytes[1].toNat)

/-- The block, byte by byte. -/
def toBytes (info : DeviceInfo) : List UInt8 :=
  Word.toBytes info.functions.bits ++ Word.listToBytes info.definitions.toList ++
    [info.region, info.direction] ++ info.description.toList ++
    info.producer.toList ++ (currentBytes info.standbyCurrent).toList ++
    (currentBytes info.maxCurrent).toList

/-- The block as payload words. -/
def toWords (info : DeviceInfo) : List UInt32 :=
  Word.pack wordCount info.toBytes

/-- The extended block as payload words. -/
def toExtWords (info : DeviceInfo) (version : String) : List UInt32 :=
  Word.pack extWordCount (info.toBytes ++ (Text.pad versionLength version).toList)

/-- Read the block field by field, in the order in which it is written. -/
def read (cursor : Packet.Cursor) : Except CodecError DeviceInfo := do
  let (functions, cursor) ← cursor.word
  let (first, cursor) ← cursor.word
  let (second, cursor) ← cursor.word
  let (third, cursor) ← cursor.word
  let (region, cursor) ← cursor.byte
  let (direction, cursor) ← cursor.byte
  let (description, cursor) ← cursor.field descriptionLength
  let (producer, cursor) ← cursor.field producerLength
  let (standby, cursor) ← cursor.field 2
  let (largest, _) ← cursor.field 2
  .ok
    { functions := ⟨functions⟩
      definitions := #v[first, second, third]
      region
      direction
      description
      producer
      standbyCurrent := currentOfBytes standby
      maxCurrent := currentOfBytes largest }

/-- The information in the leading 28 words of a block. -/
def ofWords (words : List UInt32) : Except CodecError DeviceInfo :=
  if words.length < wordCount then
    .error (.framing (wordCount * 4) (words.length * 4))
  else
    let bytes := Word.listToBytes words
    let block := List.ofFn fun index : Fin (wordCount * 4) => bytes.getD index.val 0
    read (Packet.Cursor.start block)

/-- The version field of an extended block. -/
def extVersion? (words : List UInt32) : Option (Vector UInt8 versionLength) :=
  if words.length < extWordCount then
    none
  else
    let bytes := (Word.listToBytes words).drop (wordCount * 4)
    some (Vector.ofFn fun index => bytes.getD index.val 0x20)

/-- The definition word of a function the device advertises. -/
def definitionFor? (info : DeviceInfo) (function : FunctionSet) : Option UInt32 := do
  let index ← info.functions.definitionIndex? function
  info.definitions[index]?

/-- The product name without padding. -/
def descriptionText (info : DeviceInfo) : String :=
  Text.unpad info.description.toList

/-- The producer without padding. -/
def producerText (info : DeviceInfo) : String :=
  Text.unpad info.producer.toList

@[simp]
theorem length_toBytes (info : DeviceInfo) : info.toBytes.length = 112 := by
  simp [toBytes, descriptionLength, producerLength]

@[simp]
theorem length_toWords (info : DeviceInfo) : info.toWords.length = wordCount := by
  simp [toWords]

@[simp]
theorem length_toExtWords (info : DeviceInfo) (version : String) :
    (info.toExtWords version).length = extWordCount := by
  simp [toExtWords]

end DeviceInfo

end MapleBus
