import MapleBus.Word

/-!
# Storage geometry and media layout

A storage device states its geometry in its definition word.  The layout of
the medium itself is read from six words of a memory information reply.
-/

namespace MapleBus.Device.Storage

/-- The definition word of a standard memory card: one partition, blocks of
512 bytes, read in one phase and written in four. -/
def memoryCardDefinition : UInt32 := 0x000F4100

/-- How a storage device is divided and accessed. -/
structure Geometry where
  partitions : UInt16
  bytesPerBlock : UInt16
  /-- Phases needed to read one block. -/
  readAccesses : UInt8
  /-- Phases needed to write one block. -/
  writeAccesses : UInt8
  removable : Bool
  crcRequired : Bool
  deriving DecidableEq, Repr

namespace Geometry

/-- The geometry that a definition word states. -/
def ofDefinition (definition : UInt32) : Geometry :=
  let byte (scale : Nat) : Nat := definition.toNat / scale % 0x100
  { partitions := UInt16.ofNat (byte 0x1000000 + 1)
    bytesPerBlock := UInt16.ofNat ((byte 0x10000 + 1) * 32)
    readAccesses := UInt8.ofNat (byte 0x100 % 16)
    writeAccesses := UInt8.ofNat (byte 0x100 / 16)
    removable := (byte 1).testBit 7
    crcRequired := (byte 1).testBit 6 }

/-- The definition word that states a geometry, with the parts that do not fit
their fields at the largest value; of the write phases the four low bits are
kept. -/
def definition (geometry : Geometry) : UInt32 :=
  let partitions := min 255 (geometry.partitions.toNat - 1)
  let blockSize := min 255 (geometry.bytesPerBlock.toNat / 32 - 1)
  let accesses :=
    geometry.writeAccesses.toNat % 16 * 16 + geometry.readAccesses.toNat % 16
  let flags :=
    (if geometry.removable then 0x80 else 0) + (if geometry.crcRequired then 0x40 else 0)
  Word.ofBytes (UInt8.ofNat partitions) (UInt8.ofNat blockSize)
    (UInt8.ofNat accesses) (UInt8.ofNat flags)

/-- Words in one block. -/
def wordsPerBlock (geometry : Geometry) : Nat :=
  geometry.bytesPerBlock.toNat / 4

end Geometry

/-- The layout of a medium. -/
structure MediaInfo where
  /-- The highest block number. -/
  maxBlock : UInt16
  partition : UInt16
  systemBlock : UInt16
  fatBlock : UInt16
  fatBlockCount : UInt16
  fileInfoBlock : UInt16
  fileInfoBlockCount : UInt16
  volumeIcon : UInt16
  saveAreaBlockCount : UInt16
  saveAreaBlock : UInt16
  executionFile : UInt32
  deriving DecidableEq, Repr

namespace MediaInfo

/-- The layout in the leading six words, two fields a word and the last word
whole. -/
def ofWords? : List UInt32 → Option MediaInfo
  | first :: second :: third :: fourth :: fifth :: sixth :: _ =>
      let high (word : UInt32) : UInt16 := UInt16.ofNat (word.toNat / 0x10000)
      let low (word : UInt32) : UInt16 := UInt16.ofNat word.toNat
      some
        { maxBlock := high first
          partition := low first
          systemBlock := high second
          fatBlock := low second
          fatBlockCount := high third
          fileInfoBlock := low third
          fileInfoBlockCount := high fourth
          volumeIcon := low fourth
          saveAreaBlockCount := high fifth
          saveAreaBlock := low fifth
          executionFile := sixth }
  | _ => none

/-- How many blocks the medium has. -/
def blockCount (media : MediaInfo) : Nat :=
  media.maxBlock.toNat + 1

end MediaInfo

end MapleBus.Device.Storage
