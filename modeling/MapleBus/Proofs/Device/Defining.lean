import MapleBus.Device
import MapleBus.PlayerBus
import MapleBus.Proofs.Packet.InfoBlock

/-!
# What a storage device states as its definition

A storage device is made with a definition word and states it twice.  Its information block
carries the word as it is; the bus is told the word of the geometry that the device read in
it.  A geometry has no place for the six lowest bits of a definition, so the two agree for the
words that leave these bits clear, and for no others.
-/

namespace MapleBus.Device.Storage

variable {definition other : UInt32}

/-! ## Definitions of a geometry -/

namespace Geometry

/-- The six lowest bits of a definition say nothing about the geometry. -/
theorem ofDefinition_congr (same : definition.toNat / 64 = other.toNat / 64) :
    ofDefinition definition = ofDefinition other := by
  have first : definition.toNat / 0x1000000 = other.toNat / 0x1000000 := by omega
  have second : definition.toNat / 0x10000 = other.toNat / 0x10000 := by omega
  have third : definition.toNat / 0x100 = other.toNat / 0x100 := by omega
  have removable : definition.toNat % 0x100 / 2 ^ 7 = other.toNat % 0x100 / 2 ^ 7 := by omega
  have checked : definition.toNat % 0x100 / 2 ^ 6 = other.toNat % 0x100 / 2 ^ 6 := by omega
  simp only [ofDefinition, first, second, third, Nat.div_one, Nat.testBit_eq_decide_div_mod_eq,
    removable, checked]

section Fields

variable (definition)

theorem partitions_ofDefinition :
    min 255 ((ofDefinition definition).partitions.toNat - 1) =
      definition.toNat / 0x1000000 := by
  have bound := definition.toNat_lt
  simp only [ofDefinition, UInt16.toNat_ofNat']
  omega

theorem bytesPerBlock_ofDefinition :
    min 255 ((ofDefinition definition).bytesPerBlock.toNat / 32 - 1) =
      definition.toNat / 0x10000 % 0x100 := by
  simp only [ofDefinition, UInt16.toNat_ofNat']
  omega

theorem accesses_ofDefinition :
    (ofDefinition definition).writeAccesses.toNat % 16 * 16 +
        (ofDefinition definition).readAccesses.toNat % 16 =
      definition.toNat / 0x100 % 0x100 := by
  simp only [ofDefinition, UInt8.toNat_ofNat']
  omega

theorem flags_ofDefinition :
    (if (ofDefinition definition).removable then 0x80 else 0) +
        (if (ofDefinition definition).crcRequired then 0x40 else 0) =
      definition.toNat % 0x100 / 64 * 64 := by
  simp only [ofDefinition, Nat.div_one, Nat.testBit_eq_decide_div_mod_eq, decide_eq_true_eq]
  split <;> split <;> omega

end Fields

/-- The definition of the geometry that a word states is the word without its six lowest
bits. -/
theorem toNat_definition_ofDefinition (definition : UInt32) :
    (ofDefinition definition).definition.toNat = definition.toNat / 64 * 64 := by
  have bound := definition.toNat_lt
  simp only [Geometry.definition, partitions_ofDefinition, bytesPerBlock_ofDefinition,
    accesses_ofDefinition, flags_ofDefinition, Word.ofBytes, UInt32.toNat_ofNat',
    UInt8.toNat_ofNat']
  omega

/-- The definition of a geometry that a word states says the same about the geometry. -/
theorem ofDefinition_definition_ofDefinition (definition : UInt32) :
    ofDefinition (ofDefinition definition).definition = ofDefinition definition := by
  apply ofDefinition_congr
  rw [toNat_definition_ofDefinition]
  omega

end Geometry

/-! ## Definitions of a device -/

variable {storage : Storage}

/-- The information block and the bus have the same definition of a device. -/
def IsConsistent (storage : Storage) : Prop :=
  storage.info.definitionFor? .storage = some (Peripheral.definition storage)

/-- The only function of a device has the first definition. -/
theorem definitionIndex?_storage : FunctionSet.storage.definitionIndex? .storage = some 0 := by
  decide

/-- The information block carries the word that the device was made with. -/
theorem definitionFor?_info (storage : Storage) :
    storage.info.definitionFor? .storage = some storage.definitionWord := by
  change (FunctionSet.storage.definitionIndex? .storage).bind
    (#v[storage.definitionWord, 0, 0][·]?) = _
  rw [definitionIndex?_storage]
  rfl

/-- The bus is told the definition of the geometry. -/
theorem toNat_definition (storage : Storage) :
    (Peripheral.definition storage).toNat = storage.definitionWord.toNat / 64 * 64 :=
  Geometry.toNat_definition_ofDefinition storage.definitionWord

theorem isConsistent_iff :
    storage.IsConsistent ↔ storage.definitionWord.toNat % 64 = 0 := by
  rw [IsConsistent, definitionFor?_info, Option.some_inj, ← UInt32.toNat_inj, toNat_definition]
  omega

/-- What a device that was made with a definition word states about it. -/
structure Defines (storage : Storage) : Prop where
  /-- The information block carries the word, and reading the block gives it back. -/
  carried : storage.info.definitionFor? .storage = some storage.definitionWord ∧
    DeviceInfo.ofWords storage.info.toWords = .ok storage.info
  /-- The bus is told the word without its six lowest bits. -/
  told : (Peripheral.definition storage).toNat = storage.definitionWord.toNat / 64 * 64
  /-- That word states the same geometry. -/
  sameGeometry : Geometry.ofDefinition (Peripheral.definition storage) = storage.geometry
  /-- A summary of a bus shows that word. -/
  shown : ∀ (W : Type) (bus : PlayerBus Device W) (place : Nat),
    bus.peripherals[place]? = some (.storage storage) →
      bus.summary[place]? = some
        (storage.address.text ++ " " ++ "storage" ++ " function=" ++ FunctionSet.storage.text ++
          " definition=" ++ Text.Hex.marked 8 (storage.definitionWord.toNat / 64 * 64))
  /-- The two are the same for words that leave the six lowest bits clear, and for no
  others. -/
  consistent_iff : storage.IsConsistent ↔ storage.definitionWord.toNat % 64 = 0

/-- A device states its definition word with and without the six lowest bits. -/
theorem definition_stated (storage : Storage) : storage.Defines where
  carried := ⟨storage.definitionFor?_info, DeviceInfo.ofWords_toWords⟩
  told := storage.toNat_definition
  sameGeometry := Geometry.ofDefinition_definition_ofDefinition storage.definitionWord
  shown := by
    intro W bus place plugged
    rw [PlayerBus.summary, List.getElem?_map, plugged, Option.map_some, ← toNat_definition]
    rfl
  consistent_iff := isConsistent_iff

/-- A device whose definition word has its lowest bit set. -/
def marked : Storage :=
  { address := ⟨0x01⟩, player := {}, definitionWord := 0x00000001 }

theorem not_isConsistent_marked : ¬ marked.IsConsistent := by
  rw [isConsistent_iff]
  decide

end MapleBus.Device.Storage
