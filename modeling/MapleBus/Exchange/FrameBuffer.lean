import MapleBus.Packet.Frame

/-!
# Frame buffers

Fixed storage for the bytes of one frame.  Storing overwrites the front and
leaves the rest as it was, so a buffer may hold bytes of earlier frames behind
those of the last one.
-/

namespace MapleBus

/-- Storage for as many bytes as the longest frame has. -/
structure FrameBuffer where
  bytes : List UInt8
  length_bytes : bytes.length = Packet.maxFrameLength
  deriving DecidableEq, Repr

namespace FrameBuffer

/-- Storage that no frame was written to. -/
def blank : FrameBuffer where
  bytes := List.replicate Packet.maxFrameLength 0
  length_bytes := List.length_replicate

instance : Inhabited FrameBuffer :=
  ⟨blank⟩

/-- Overwrite the front, as far as the storage reaches. -/
def store (buffer : FrameBuffer) (source : List UInt8) : FrameBuffer where
  bytes := source.take Packet.maxFrameLength ++ buffer.bytes.drop source.length
  length_bytes := by
    simp only [List.length_append, List.length_take, List.length_drop,
      buffer.length_bytes]
    omega

/-- The leading bytes; none when the storage does not reach that far. -/
def read (buffer : FrameBuffer) (length : Nat) : List UInt8 :=
  if length ≤ Packet.maxFrameLength then buffer.bytes.take length else []

/-- Bytes that fit are read back, whatever the buffer held before. -/
@[simp]
theorem read_store (buffer : FrameBuffer) {source : List UInt8}
    (fits : source.length ≤ Packet.maxFrameLength) :
    (buffer.store source).read source.length = source := by
  have whole : source.take Packet.maxFrameLength = source :=
    List.take_of_length_le fits
  simp only [read, store, if_pos fits, whole, List.take_left]

/-- What is copied from one buffer to another is read there as it was. -/
theorem read_store_take (buffer source : FrameBuffer) (length : Nat) :
    (buffer.store (source.bytes.take length)).read length = source.read length := by
  by_cases fits : length ≤ Packet.maxFrameLength
  · have copied : (source.bytes.take length).length = length := by
      rw [List.length_take, source.length_bytes]
      exact Nat.min_eq_left fits
    have stored := buffer.read_store (Nat.le_trans (Nat.le_of_eq copied) fits)
    rw [copied] at stored
    rw [stored, read, if_pos fits]
  · rw [read, read, if_neg fits, if_neg fits]

end FrameBuffer

end MapleBus
