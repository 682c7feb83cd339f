import MapleBus.Error
import MapleBus.Word

/-!
# Reading bytes in order

A cursor is a place in a byte buffer.  A read takes the next bytes when there
are enough; otherwise the cursor stays where it is and the failure names the
length the buffer would have needed.  Every read returns the cursor beside its
result.  A decoder, which gives up at the first failure, needs the cursor behind
a read that succeeds only.
-/

namespace MapleBus.Packet

/-- A place in a byte buffer. -/
structure Cursor where
  buffer : List UInt8
  position : Nat := 0
  position_le : position ≤ buffer.length := by omega
  deriving Repr

namespace Cursor

/-- The place before the first byte. -/
def start (buffer : List UInt8) : Cursor :=
  { buffer }

/-- How many bytes are left to read. -/
def remaining (cursor : Cursor) : Nat :=
  cursor.buffer.length - cursor.position

/-- The bytes that are left to read. -/
def unread (cursor : Cursor) : List UInt8 :=
  cursor.buffer.drop cursor.position

variable {α : Type}

/-! ## Reads -/

/-- Read the next `count` bytes.  A length that does not fit a
sixty-four-bit word is reported as the largest one. -/
def readSlice (cursor : Cursor) (count : Nat) : Except CodecError (List UInt8) × Cursor :=
  if enough : cursor.position + count ≤ cursor.buffer.length then
    (.ok ((cursor.buffer.drop cursor.position).take count),
      { buffer := cursor.buffer
        position := cursor.position + count
        position_le := enough })
  else
    (.error (.framing (min (cursor.position + count) 0xFFFFFFFFFFFFFFFF)
      cursor.buffer.length), cursor)

/-- Read `count` bytes and make something of them. -/
def readAs (count : Nat) (make : List UInt8 → α) (cursor : Cursor) :
    Except CodecError α × Cursor :=
  let (bytes, rest) := cursor.readSlice count
  (bytes.map make, rest)

/-- Read one byte. -/
def readByte (cursor : Cursor) : Except CodecError UInt8 × Cursor :=
  cursor.readAs 1 fun bytes => bytes.headD 0

/-- Read one word, most significant byte first. -/
def readWord (cursor : Cursor) : Except CodecError UInt32 × Cursor :=
  cursor.readAs 4 fun bytes => (Word.listOfBytes bytes).headD 0

/-- Read a field of `length` bytes. -/
def readField (length : Nat) (cursor : Cursor) :
    Except CodecError (Vector UInt8 length) × Cursor :=
  cursor.readAs length fun bytes => Vector.ofFn fun index => bytes.getD index.val 0

/-! ## Reads of a decoder -/

/-- What a read yields and the cursor behind it, or why it failed. -/
def orFail (read : Except CodecError α × Cursor) : Except CodecError (α × Cursor) :=
  read.1.map fun value => (value, read.2)

/-- Read the next `count` bytes, or fail. -/
def take (cursor : Cursor) (count : Nat) : Except CodecError (List UInt8 × Cursor) :=
  orFail (cursor.readSlice count)

/-- Read one byte, or fail. -/
def byte (cursor : Cursor) : Except CodecError (UInt8 × Cursor) :=
  orFail cursor.readByte

/-- Read one word, or fail. -/
def word (cursor : Cursor) : Except CodecError (UInt32 × Cursor) :=
  orFail cursor.readWord

/-- Read a field of `length` bytes, or fail. -/
def field (length : Nat) (cursor : Cursor) :
    Except CodecError (Vector UInt8 length × Cursor) :=
  orFail (cursor.readField length)

theorem orFail_eq_ok_iff {read : Except CodecError α × Cursor} {value : α} {rest : Cursor} :
    orFail read = .ok (value, rest) ↔ read = (.ok value, rest) := by
  obtain ⟨result, after⟩ := read
  cases result with
  | error cause => simp [orFail, Except.map]
  | ok yielded => simp [orFail, Except.map]

/-- A decoder makes of the bytes it takes what the read makes of them. -/
theorem orFail_readAs (count : Nat) (make : List UInt8 → α) (cursor : Cursor) :
    orFail (cursor.readAs count make) =
      (cursor.take count).map fun taken => (make taken.1, taken.2) := by
  simp only [readAs, take, orFail]
  cases (cursor.readSlice count).1 <;> rfl

theorem readSlice_of_le {cursor : Cursor} {count : Nat}
    (enough : cursor.position + count ≤ cursor.buffer.length) :
    cursor.readSlice count =
      (.ok (cursor.unread.take count),
        { buffer := cursor.buffer
          position := cursor.position + count
          position_le := enough }) :=
  dif_pos enough

/-- A read succeeds exactly when enough bytes are left. -/
theorem take_eq_ok_iff {cursor rest : Cursor} {count : Nat} {bytes : List UInt8} :
    cursor.take count = .ok (bytes, rest) ↔
      count ≤ cursor.remaining ∧
        bytes = (cursor.buffer.drop cursor.position).take count ∧
        rest.buffer = cursor.buffer ∧ rest.position = cursor.position + count := by
  have bound := cursor.position_le
  rw [take, orFail_eq_ok_iff]
  unfold readSlice remaining
  split
  · next enough =>
      cases rest
      simp only [Except.ok.injEq, Prod.mk.injEq, Cursor.mk.injEq]
      constructor
      · rintro ⟨rfl, rfl, rfl⟩
        exact ⟨by omega, rfl, rfl, rfl⟩
      · rintro ⟨_, rfl, rfl, rfl⟩
        exact ⟨rfl, rfl, rfl⟩
  · next short =>
      simp only [Prod.mk.injEq, reduceCtorEq, false_and, false_iff]
      rintro ⟨fits, -⟩
      omega

@[simp]
theorem length_unread (cursor : Cursor) : cursor.unread.length = cursor.remaining :=
  List.length_drop

@[simp]
theorem unread_start (buffer : List UInt8) : (start buffer).unread = buffer :=
  rfl

/-- A read that succeeds takes the bytes in front and leaves those behind. -/
theorem take_of_le {cursor : Cursor} {count : Nat} (enough : count ≤ cursor.remaining) :
    ∃ rest, cursor.take count = .ok (cursor.unread.take count, rest) ∧
      rest.unread = cursor.unread.drop count := by
  have bound := cursor.position_le
  have within : cursor.position + count ≤ cursor.buffer.length := by
    unfold remaining at enough
    omega
  let rest : Cursor :=
    { buffer := cursor.buffer, position := cursor.position + count, position_le := within }
  refine ⟨rest, take_eq_ok_iff.mpr ⟨enough, rfl, rfl, rfl⟩, ?_⟩
  simp only [rest, unread, List.drop_drop]

/-- A read takes the bytes in front when it asks for as many. -/
theorem take_of_unread {cursor : Cursor} {front later : List UInt8}
    (next : cursor.unread = front ++ later) :
    ∃ rest, cursor.take front.length = .ok (front, rest) ∧ rest.unread = later := by
  have enough : front.length ≤ cursor.remaining := by
    rw [← length_unread, next]
    simp
  obtain ⟨rest, taken, behind⟩ := take_of_le enough
  rw [next, List.take_left] at taken
  rw [next, List.drop_left] at behind
  exact ⟨rest, taken, behind⟩

/-- A word is read from the next four bytes. -/
theorem word_of_unread {cursor : Cursor} {first second third fourth : UInt8}
    {later : List UInt8}
    (next : cursor.unread = first :: second :: third :: fourth :: later) :
    ∃ rest, cursor.word = .ok (Word.ofBytes first second third fourth, rest) ∧
      rest.unread = later := by
  have split : cursor.unread = [first, second, third, fourth] ++ later := next
  obtain ⟨rest, taken, behind⟩ := take_of_unread split
  rw [List.length_cons, List.length_cons, List.length_cons, List.length_singleton] at taken
  exact ⟨rest, by rw [word, readWord, orFail_readAs, taken]; rfl, behind⟩

/-- A byte is the next one. -/
theorem byte_of_unread {cursor : Cursor} {value : UInt8} {later : List UInt8}
    (next : cursor.unread = value :: later) :
    ∃ rest, cursor.byte = .ok (value, rest) ∧ rest.unread = later := by
  have split : cursor.unread = [value] ++ later := next
  obtain ⟨rest, taken, behind⟩ := take_of_unread split
  rw [List.length_singleton] at taken
  exact ⟨rest, by rw [byte, readByte, orFail_readAs, taken]; rfl, behind⟩

/-- A storage of as many bytes as a sequence has in front takes those. -/
theorem ofFn_getD_append {width : Nat} {front : List UInt8} (filler : UInt8)
    (later : List UInt8) (whole : front.length = width) :
    (List.ofFn fun index : Fin width => (front ++ later).getD index.val filler) = front := by
  apply List.ext_getElem
  · rw [List.length_ofFn, whole]
  · intro index _ bound
    simp [List.getElem?_append_left, bound]

/-- A storage as wide as a field takes the field. -/
theorem ofFn_getD_toList {width : Nat} (field : Vector UInt8 width) (filler : UInt8) :
    (Vector.ofFn fun index : Fin width => field.toList.getD index.val filler) = field := by
  apply Vector.toList_inj.mp
  have taken := ofFn_getD_append filler [] field.length_toList
  rw [List.append_nil] at taken
  rw [Vector.toList_ofFn]
  exact taken

/-- A field is read from as many bytes as it holds. -/
theorem field_of_unread {length : Nat} {cursor : Cursor} {value : Vector UInt8 length}
    {later : List UInt8} (next : cursor.unread = value.toList ++ later) :
    ∃ rest, cursor.field length = .ok (value, rest) ∧ rest.unread = later := by
  obtain ⟨rest, taken, behind⟩ := take_of_unread next
  rw [value.length_toList] at taken
  refine ⟨rest, ?_, behind⟩
  rw [field, readField, orFail_readAs, taken]
  exact congrArg (fun bytes => Except.ok (bytes, rest)) (ofFn_getD_toList value 0)

end Cursor

end MapleBus.Packet
