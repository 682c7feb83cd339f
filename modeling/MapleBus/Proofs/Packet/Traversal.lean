import MapleBus.Packet.Cursor

/-!
# Reading through a buffer

Whatever is read from a buffer, and whichever of the reads fail, the bytes that were read are
those before the cursor: none is left out, read twice or moved.  A read succeeds exactly when
the bytes it asks for are left, and the end of one that asks for more is capped at the largest
word.
-/

namespace MapleBus.Packet

/-! ## Reads -/

/-- A single read of a cursor. -/
inductive Read where
  | byte
  | word
  | field (length : Nat)
  | slice (count : Nat)
  deriving DecidableEq, Repr

namespace Read

/-- What a read yields. -/
abbrev Value : Read → Type
  | byte => UInt8
  | word => UInt32
  | field length => Vector UInt8 length
  | slice _ => List UInt8

/-- How many bytes a read asks for. -/
def size : Read → Nat
  | byte => 1
  | word => 4
  | field length => length
  | slice count => count

/-- Read from a cursor. -/
def perform : (read : Read) → Cursor → Except CodecError read.Value × Cursor
  | byte, cursor => cursor.readByte
  | word, cursor => cursor.readWord
  | field length, cursor => cursor.readField length
  | slice count, cursor => cursor.readSlice count

/-- The bytes of what was read, those of a word from the most significant one down. -/
def bytesOf : (read : Read) → read.Value → List UInt8
  | byte, value => [value]
  | word, value => Word.toBytes value
  | field _, value => value.toList
  | slice _, value => value

/-- What a read makes of the bytes it takes. -/
def ofBytes : (read : Read) → List UInt8 → read.Value
  | byte, bytes => bytes.headD 0
  | word, bytes => (Word.listOfBytes bytes).headD 0
  | field _, bytes => Vector.ofFn fun index => bytes.getD index.val 0
  | slice _, bytes => bytes

variable {read : Read} {cursor : Cursor} {bytes : List UInt8}

/-- What a read makes of as many bytes as it asks for has all of them. -/
theorem bytesOf_ofBytes (whole : bytes.length = read.size) :
    read.bytesOf (read.ofBytes bytes) = bytes := by
  cases read with
  | byte =>
      obtain ⟨value, rfl⟩ := List.length_eq_one_iff.mp whole
      rfl
  | word =>
      have four : bytes.length = 0 + 4 := whole
      obtain ⟨first, second, third, fourth, none, rfl, empty⟩ := Word.exists_four four
      obtain rfl := List.length_eq_zero_iff.mp empty
      exact Word.toBytes_ofBytes first second third fourth
  | field length =>
      have taken := Cursor.ofFn_getD_append 0 [] whole
      rw [List.append_nil] at taken
      exact Vector.toList_ofFn.trans taken
  | slice count => rfl

/-- Reads differ only in what they make of the bytes they take. -/
theorem perform_eq (read : Read) (cursor : Cursor) :
    read.perform cursor = cursor.readAs read.size read.ofBytes := by
  cases read with
  | byte | word | field length => rfl
  | slice count =>
      change cursor.readSlice count =
        ((cursor.readSlice count).1.map id, (cursor.readSlice count).2)
      rcases cursor.readSlice count with ⟨_ | bytes, rest⟩ <;> rfl

end Read

namespace Cursor

variable {cursor : Cursor} {count : Nat} {read : Read}

/-- The end of a read, as far as a word can hold it. -/
def stop (cursor : Cursor) (count : Nat) : Nat :=
  min (cursor.position + count) 0xFFFFFFFFFFFFFFFF

/-- A read that looks for its bytes between the position and the capped end. -/
def readToStop (cursor : Cursor) (count : Nat) : Except CodecError (List UInt8) × Cursor :=
  if within : cursor.position ≤ cursor.stop count ∧ cursor.stop count ≤ cursor.buffer.length then
    (.ok ((cursor.buffer.take (cursor.stop count)).drop cursor.position),
      { buffer := cursor.buffer
        position := cursor.stop count
        position_le := within.2 })
  else
    (.error (.framing (cursor.stop count) cursor.buffer.length), cursor)

/-- Where a buffer ends before the largest word, a capped end is beyond it. -/
theorem readToStop_eq (short : cursor.buffer.length < 0xFFFFFFFFFFFFFFFF) :
    cursor.readToStop count = cursor.readSlice count := by
  have bound := cursor.position_le
  by_cases enough : cursor.position + count ≤ cursor.buffer.length
  · have uncapped : cursor.stop count = cursor.position + count := Nat.min_eq_left (by omega)
    have within : cursor.position ≤ cursor.position + count := Nat.le_add_right _ _
    simp only [readToStop, uncapped, within, enough, and_self, dite_true,
      readSlice_of_le enough, unread, List.drop_take, Nat.add_sub_cancel_left]
  · have beyond : cursor.buffer.length < cursor.stop count := by
      unfold stop
      omega
    rw [readToStop, dif_neg (fun within => by omega), readSlice, dif_neg enough]
    rfl

theorem readSlice_of_lt (short : cursor.remaining < count) :
    cursor.readSlice count =
      (.error (.framing (cursor.stop count) cursor.buffer.length), cursor) := by
  have bound := cursor.position_le
  unfold remaining at short
  exact dif_neg (by omega)

/-- A read of bytes that are left takes them in their order and puts the cursor behind them. -/
theorem perform_of_le (enough : read.size ≤ cursor.remaining) :
    ∃ value rest, read.perform cursor = (.ok value, rest) ∧
      read.bytesOf value = cursor.unread.take read.size ∧
        rest.buffer = cursor.buffer ∧ rest.position = cursor.position + read.size := by
  have bound := cursor.position_le
  have within : cursor.position + read.size ≤ cursor.buffer.length := by
    unfold remaining at enough
    omega
  have whole : (cursor.unread.take read.size).length = read.size := by
    rw [List.length_take, length_unread, Nat.min_eq_left enough]
  have succeeded := readSlice_of_le within
  refine ⟨read.ofBytes (cursor.unread.take read.size), (cursor.readSlice read.size).2, ?_,
    Read.bytesOf_ofBytes whole, ?_⟩
  · rw [Read.perform_eq, readAs, succeeded]
    rfl
  · rw [succeeded]
    exact ⟨rfl, rfl⟩

/-- A read of more bytes than are left fails, and the cursor stays. -/
theorem perform_of_lt (short : cursor.remaining < read.size) :
    read.perform cursor =
      (.error (.framing (cursor.stop read.size) cursor.buffer.length), cursor) := by
  rw [Read.perform_eq, readAs, readSlice_of_lt short]
  rfl

/-! ## One read after another -/

/-- Read one after another: the bytes each read came to, and the cursor at last. -/
def traverse (cursor : Cursor) : List Read → List (Except CodecError (List UInt8)) × Cursor
  | [] => ([], cursor)
  | read :: later =>
      let (outcome, rest) := read.perform cursor
      let (others, last) := rest.traverse later
      (outcome.map read.bytesOf :: others, last)

/-- The bytes of the reads that succeeded. -/
def yielded (outcomes : List (Except CodecError (List UInt8))) : List UInt8 :=
  outcomes.flatMap fun outcome => outcome.toOption.getD []

/-- The bytes a read yields and those it leaves are those that were left before. -/
theorem perform_unread (cursor : Cursor) (read : Read) :
    (read.perform cursor).2.buffer = cursor.buffer ∧
      yielded [(read.perform cursor).1.map read.bytesOf] ++ (read.perform cursor).2.unread =
        cursor.unread := by
  by_cases enough : read.size ≤ cursor.remaining
  · obtain ⟨value, rest, succeeded, bytes, same, moved⟩ := perform_of_le enough
    rw [succeeded]
    refine ⟨same, ?_⟩
    simp only [yielded, List.flatMap_singleton, Except.map, Except.toOption, Option.getD_some,
      bytes, unread, same, moved, ← List.drop_drop, List.take_append_drop]
  · rw [perform_of_lt (Nat.lt_of_not_le enough)]
    exact ⟨rfl, rfl⟩

/-- The same of any number of reads. -/
theorem traverse_unread (cursor : Cursor) (reads : List Read) :
    (cursor.traverse reads).2.buffer = cursor.buffer ∧
      yielded (cursor.traverse reads).1 ++ (cursor.traverse reads).2.unread = cursor.unread := by
  induction reads generalizing cursor with
  | nil => exact ⟨rfl, rfl⟩
  | cons read later ih =>
      obtain ⟨same, left⟩ := perform_unread cursor read
      obtain ⟨sameLater, leftLater⟩ := ih (read.perform cursor).2
      refine ⟨sameLater.trans same, ?_⟩
      calc yielded (cursor.traverse (read :: later)).1 ++
            (cursor.traverse (read :: later)).2.unread
          = yielded [(read.perform cursor).1.map read.bytesOf] ++
              (yielded ((read.perform cursor).2.traverse later).1 ++
                ((read.perform cursor).2.traverse later).2.unread) := by
            simp [traverse, yielded]
        _ = cursor.unread := by rw [leftLater, left]

/-- What the next read of a cursor comes to. -/
structure Answers (cursor : Cursor) (read : Read) : Prop where
  /-- It succeeds exactly when as many bytes are left as it asks for. -/
  succeeds_iff : (∃ value rest, read.perform cursor = (.ok value, rest)) ↔
    read.size ≤ cursor.remaining
  /-- Then it yields the next bytes, and the cursor is behind them. -/
  advances : ∀ value rest, read.perform cursor = (.ok value, rest) →
    read.bytesOf value = (cursor.buffer.drop cursor.position).take read.size ∧
      rest.buffer = cursor.buffer ∧ rest.position = cursor.position + read.size
  /-- Otherwise it names the length it would have needed, as far as a word can hold it, and the
  cursor stays. -/
  refuses : cursor.remaining < read.size → read.perform cursor =
    (.error (.framing (min (cursor.position + read.size) 0xFFFFFFFFFFFFFFFF)
      cursor.buffer.length), cursor)

theorem answers (cursor : Cursor) (read : Read) : cursor.Answers read where
  succeeds_iff := by
    constructor
    · rintro ⟨value, rest, succeeded⟩
      refine Nat.not_lt.mp fun short => ?_
      rw [perform_of_lt short] at succeeded
      cases succeeded
    · intro enough
      obtain ⟨value, rest, succeeded, -⟩ := perform_of_le enough
      exact ⟨value, rest, succeeded⟩
  advances value rest succeeded := by
    by_cases enough : read.size ≤ cursor.remaining
    · obtain ⟨other, behind, same, bytes, moved⟩ := perform_of_le enough
      rw [succeeded] at same
      cases same
      exact ⟨bytes, moved⟩
    · rw [perform_of_lt (Nat.lt_of_not_le enough)] at succeeded
      cases succeeded
  refuses := perform_of_lt

/-- What reads of a buffer come to: the outcomes of the reads so far and the place of the
cursor. -/
structure Traverses (buffer : List UInt8) (outcomes : List (Except CodecError (List UInt8)))
    (cursor : Cursor) : Prop where
  /-- The cursor is in the buffer. -/
  within : cursor.buffer = buffer ∧ cursor.position ≤ buffer.length
  /-- What was read and what is left are all of it. -/
  whole : cursor.position + cursor.remaining = buffer.length
  /-- The bytes of the reads that succeeded are those before the cursor. -/
  front : yielded outcomes = buffer.take cursor.position
  /-- The size of the next read decides whether it succeeds. -/
  next : ∀ read, cursor.Answers read
  /-- No read of a buffer that words can count is misled by the cap on its end. -/
  capped : buffer.length < 0xFFFFFFFFFFFFFFFF →
    ∀ count, cursor.readToStop count = cursor.readSlice count

/-- Whatever is read from a buffer one after another, the bytes that were read are those before
the cursor. -/
theorem traverses_start (buffer : List UInt8) (reads : List Read) :
    Traverses buffer ((start buffer).traverse reads).1 ((start buffer).traverse reads).2 := by
  obtain ⟨same, left⟩ := traverse_unread (start buffer) reads
  have within := ((start buffer).traverse reads).2.position_le
  generalize (start buffer).traverse reads = passed at same left within ⊢
  obtain ⟨outcomes, cursor⟩ := passed
  obtain rfl : cursor.buffer = buffer := same
  refine ⟨⟨rfl, within⟩, Nat.add_sub_cancel' within, ?_, answers cursor, ?_⟩
  · have rejoined : yielded outcomes ++ cursor.unread =
        cursor.buffer.take cursor.position ++ cursor.unread := by
      rw [left, unread_start, unread, List.take_append_drop]
    exact List.append_cancel_right rejoined
  · intro short count
    exact readToStop_eq short

/-- After a word that is refused, the bytes are read that the word would have begun with. -/
example : ((start [0x01, 0x02, 0x03]).traverse [.byte, .word, .slice 2]).1 =
    [.ok [0x01], .error (.framing 5 3), .ok [0x02, 0x03]] := by
  rfl

end Cursor

end MapleBus.Packet
