import MapleBus.Exchange.Transmission

/-!
# The transmission table

Four slots hold the transmissions a scheduler knows.  A handle names a slot
and the identifier found there, so a handle kept after its slot was reused
resolves to nothing.
-/

namespace MapleBus

/-- A place in the transmission table. -/
abbrev Slot : Type := Fin 4

/-- A reference to a scheduled transmission. -/
structure Handle where
  slot : Slot
  id : UInt32
  deriving DecidableEq, Repr

/-- The transmissions a scheduler knows, by slot. -/
structure Table where
  slots : Vector (Option Transmission) 4 := Vector.replicate 4 none
  deriving DecidableEq, Repr, Inhabited

namespace Table

/-- How many transmissions the table can hold. -/
def capacity : Nat := 4

/-- What a slot holds. -/
def entry (table : Table) (slot : Slot) : Option Transmission :=
  table.slots[slot]

/-- The transmission a handle refers to, if it is still there. -/
def get? (table : Table) (handle : Handle) : Option Transmission :=
  (table.entry handle.slot).filter fun tx => tx.id == handle.id

/-- The first transmission that satisfies a condition, with its handle. -/
def find? (table : Table) (condition : Transmission → Bool) :
    Option (Handle × Transmission) :=
  (List.finRange 4).findSome? fun slot =>
    ((table.entry slot).filter condition).map fun tx => (⟨slot, tx.id⟩, tx)

/-- The first slot without a transmission. -/
def free? (table : Table) : Option Slot :=
  (List.finRange 4).find? fun slot => (table.entry slot).isNone

/-- Put a transmission into a slot. -/
def put (table : Table) (slot : Slot) (tx : Transmission) : Table :=
  ⟨table.slots.set slot (some tx)⟩

/-- Empty a slot. -/
def vacate (table : Table) (slot : Slot) : Table :=
  ⟨table.slots.set slot none⟩

/-- Keep only the transmissions that satisfy a condition. -/
def filter (table : Table) (condition : Transmission → Bool) : Table :=
  ⟨table.slots.map fun entry => entry.filter condition⟩

/-- The transmissions in slot order. -/
def toList (table : Table) : List Transmission :=
  table.slots.toList.filterMap id

/-- How many transmissions satisfy a condition. -/
def count (table : Table) (condition : Transmission → Bool) : Nat :=
  table.toList.countP condition

/-- The slots of a table, spelled out. -/
def dump (table : Table) : String :=
  let slot : Option Transmission → String
    | some tx => "Some(" ++ tx.dump ++ ")"
    | none => "None"
  "[" ++ ", ".intercalate (table.slots.toList.map slot) ++ "]"

/-! ## What the operations do to the slots -/

section Laws

variable {table : Table} {condition : Transmission → Bool} {slot other : Slot}
  {handle : Handle} {tx : Transmission}

@[simp]
theorem entry_empty (slot : Slot) : entry {} slot = none := by
  simp [entry]

@[simp]
theorem entry_put_same : (table.put slot tx).entry slot = some tx := by
  simp [entry, put]

theorem entry_put_of_ne (ne : other ≠ slot) :
    (table.put slot tx).entry other = table.entry other := by
  have places : slot.val ≠ other.val := fun equal => ne (Fin.ext equal.symm)
  simp [entry, put, Vector.getElem_set_ne, places]

@[simp]
theorem entry_vacate_same : (table.vacate slot).entry slot = none := by
  simp [entry, vacate]

theorem entry_vacate_of_ne (ne : other ≠ slot) :
    (table.vacate slot).entry other = table.entry other := by
  have places : slot.val ≠ other.val := fun equal => ne (Fin.ext equal.symm)
  simp [entry, vacate, Vector.getElem_set_ne, places]

@[simp]
theorem entry_filter :
    (table.filter condition).entry slot = (table.entry slot).filter condition := by
  simp [entry, filter]

/-- A handle resolves to the entry of its slot, if that has its identifier. -/
theorem get?_eq_some_iff :
    table.get? handle = some tx ↔
      table.entry handle.slot = some tx ∧ tx.id = handle.id := by
  simp [get?, entry, Option.filter_eq_some_iff]

theorem find?_eq_none_iff :
    table.find? condition = none ↔
      ∀ slot tx, table.entry slot = some tx → condition tx = false := by
  simp only [find?, List.findSome?_eq_none_iff, List.mem_finRange, true_implies,
    Option.map_eq_none_iff, Option.filter_eq_none_iff, Bool.not_eq_true, entry]

/-- A search that succeeds yields an entry, under its own handle, that
satisfies the condition. -/
theorem of_find?_eq_some (found : table.find? condition = some (handle, tx)) :
    table.entry handle.slot = some tx ∧ tx.id = handle.id ∧ condition tx = true := by
  obtain ⟨slot, -, atSlot⟩ := List.exists_of_findSome?_eq_some found
  simp only [Option.map_eq_some_iff, Option.filter_eq_some_iff, Prod.mk.injEq] at atSlot
  obtain ⟨entryTx, ⟨present, holds⟩, rfl, rfl⟩ := atSlot
  exact ⟨present, rfl, holds⟩

/-- When a single slot can satisfy the condition, the search finds it. -/
theorem find?_eq_some_of_unique (present : table.entry slot = some tx)
    (holds : condition tx = true)
    (unique : ∀ place found, table.entry place = some found →
      condition found = true → place = slot) :
    table.find? condition = some (⟨slot, tx.id⟩, tx) := by
  cases search : table.find? condition with
  | none =>
      have fails := find?_eq_none_iff.mp search slot tx present
      rw [holds] at fails
      contradiction
  | some result =>
      obtain ⟨handle, found⟩ := result
      obtain ⟨foundPresent, foundId, foundHolds⟩ := of_find?_eq_some search
      have slotEq : handle.slot = slot := unique _ _ foundPresent foundHolds
      rw [slotEq, present] at foundPresent
      cases foundPresent
      obtain ⟨place, id⟩ := handle
      cases slotEq
      cases foundId
      rfl

theorem free?_eq_none_iff :
    table.free? = none ↔ ∀ slot, table.entry slot ≠ none := by
  simp [free?, entry, List.find?_eq_none]

theorem free?_of_vacant (vacant : table.entry 0 = none) : table.free? = some 0 := by
  simp [free?, List.finRange_succ, vacant]

theorem entry_of_free?_eq_some (found : table.free? = some slot) :
    table.entry slot = none := by
  have vacant := List.find?_some found
  simpa [entry] using vacant

/-- The transmissions are the entries, read slot by slot. -/
theorem toList_eq_filterMap : table.toList = (List.finRange 4).filterMap table.entry := by
  have slotsEq : table.slots.toList = (List.finRange 4).map table.entry := by
    apply List.ext_getElem
    · simp
    · intro index _ bound
      simp [entry]
  rw [toList, slotsEq, List.filterMap_map]
  rfl

theorem mem_toList_iff : tx ∈ table.toList ↔ ∃ slot, table.entry slot = some tx := by
  simp [toList_eq_filterMap]

theorem count_eq_zero_iff :
    table.count condition = 0 ↔
      ∀ slot tx, table.entry slot = some tx → condition tx = false := by
  simp only [count, List.countP_eq_zero, mem_toList_iff, Bool.not_eq_true]
  constructor
  · intro none slot tx present
    exact none tx ⟨slot, present⟩
  · rintro none tx ⟨slot, present⟩
    exact none slot tx present

theorem count_pos_iff :
    0 < table.count condition ↔
      ∃ slot tx, table.entry slot = some tx ∧ condition tx = true := by
  simp only [count, List.countP_pos_iff, mem_toList_iff]
  constructor
  · rintro ⟨tx, ⟨slot, present⟩, holds⟩
    exact ⟨slot, tx, present, holds⟩
  · rintro ⟨slot, tx, present, holds⟩
    exact ⟨tx, ⟨slot, present⟩, holds⟩

/-- Counting transmissions is counting slots. -/
theorem count_eq_countP :
    table.count condition =
      (List.finRange 4).countP fun slot => (table.entry slot).any condition := by
  rw [count, toList_eq_filterMap, List.countP_filterMap]
  congr
  funext slot
  cases table.entry slot <;> rfl

/-- At most one slot satisfies a condition exactly when any two that do are the
same. -/
theorem countP_finRange_le_one_iff {holds : Slot → Bool} :
    (List.finRange 4).countP holds ≤ 1 ↔
      ∀ slot other, holds slot = true → holds other = true → slot = other := by
  rw [List.countP_eq_length_filter]
  constructor
  · intro short slot other slotHolds otherHolds
    have slotMem : slot ∈ (List.finRange 4).filter holds := by simp [slotHolds]
    have otherMem : other ∈ (List.finRange 4).filter holds := by simp [otherHolds]
    generalize (List.finRange 4).filter holds = places at *
    match places, short with
    | [place], _ =>
        rw [List.mem_singleton] at slotMem otherMem
        rw [slotMem, otherMem]
  · intro unique
    have nodup : ((List.finRange 4).filter holds).Nodup :=
      List.Nodup.sublist List.filter_sublist (by decide)
    have same : ∀ slot ∈ (List.finRange 4).filter holds,
        ∀ other ∈ (List.finRange 4).filter holds, slot = other := by
      intro slot slotMem other otherMem
      exact unique slot other (List.mem_filter.mp slotMem).2 (List.mem_filter.mp otherMem).2
    generalize (List.finRange 4).filter holds = places at *
    match places with
    | [] => exact Nat.zero_le 1
    | [_] => exact Nat.le_refl 1
    | first :: second :: rest =>
        have equal : first = second := same first (by simp) second (by simp)
        simp [equal] at nodup

/-- At most one entry satisfies a condition exactly when any two that do stand
in the same slot. -/
theorem count_le_one_iff :
    table.count condition ≤ 1 ↔
      ∀ slot other tx otherTx, table.entry slot = some tx → condition tx = true →
        table.entry other = some otherTx → condition otherTx = true → slot = other := by
  rw [count_eq_countP, countP_finRange_le_one_iff]
  constructor
  · intro unique slot other tx otherTx present holds otherPresent otherHolds
    exact unique slot other (by simp [present, holds]) (by simp [otherPresent, otherHolds])
  · intro unique slot other slotHolds otherHolds
    obtain ⟨tx, present, holds⟩ := (Option.any_eq_true _ _).mp slotHolds
    obtain ⟨otherTx, otherPresent, otherHolds⟩ := (Option.any_eq_true _ _).mp otherHolds
    exact unique slot other tx otherTx present holds otherPresent otherHolds

end Laws

end Table

end MapleBus
