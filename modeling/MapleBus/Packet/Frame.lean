import MapleBus.Packet
import MapleBus.Packet.Cursor
import MapleBus.WireTime

/-!
# Frames

The bytes of a packet on the wire: command, recipient, sender, word count, the
payload words most significant byte first, and the exclusive or of all these
bytes.  A frame of `n` words has `4 * n + 5` bytes.

A frame is written byte by byte into storage for the longest one, which takes
no more bytes once it is full.  Reading a frame checks its length against the
word count and then the checksum, reads the words with a cursor, and yields
nothing unless all of it agrees.
-/

namespace MapleBus.Packet

/-- Bytes before the payload. -/
def headerLength : Nat := 4

/-- The length of a frame that carries `words` words. -/
def frameLength (words : Nat) : Nat :=
  headerLength + words * 4 + 1

/-- The shortest frame. -/
def minFrameLength : Nat :=
  frameLength 0

/-- The longest frame. -/
def maxFrameLength : Nat :=
  frameLength maxPayloadWords

/-- The exclusive or of all bytes. -/
def checksum (bytes : List UInt8) : UInt8 :=
  bytes.foldl (· ^^^ ·) 0

/-! ## Writing -/

/-- The bytes written so far, in storage for the longest frame. -/
structure Frame where
  bytes : List UInt8
  length_le : bytes.length ≤ maxFrameLength

namespace Frame

variable {frame : Frame}

/-- A frame of which nothing has been written. -/
def blank : Frame :=
  ⟨[], Nat.zero_le _⟩

/-- Write a byte.  Storage that is full stays as it is. -/
def push (frame : Frame) (byte : UInt8) : Frame :=
  if room : frame.bytes.length < maxFrameLength then
    { bytes := frame.bytes ++ [byte]
      length_le := by
        simp only [List.length_append, List.length_singleton]
        omega }
  else
    frame

/-- Write bytes in order. -/
def extend (frame : Frame) (bytes : List UInt8) : Frame :=
  bytes.foldl push frame

/-- Write words, each most significant byte first. -/
def extendWords (frame : Frame) (words : List UInt32) : Frame :=
  words.foldl (fun frame word => frame.extend (Word.toBytes word)) frame

theorem bytes_push {byte : UInt8} (room : frame.bytes.length < maxFrameLength) :
    (frame.push byte).bytes = frame.bytes ++ [byte] := by
  rw [push, dif_pos room]

/-- Bytes for which there is room are all written. -/
theorem bytes_extend {bytes : List UInt8}
    (room : frame.bytes.length + bytes.length ≤ maxFrameLength) :
    (frame.extend bytes).bytes = frame.bytes ++ bytes := by
  induction bytes generalizing frame with
  | nil => exact (List.append_nil _).symm
  | cons byte rest ih =>
      rw [List.length_cons] at room
      have pushed : (frame.push byte).bytes = frame.bytes ++ [byte] := bytes_push (by omega)
      have fits : (frame.push byte).bytes.length + rest.length ≤ maxFrameLength := by
        rw [pushed, List.length_append, List.length_singleton]
        omega
      have others := ih fits
      rw [pushed, List.append_assoc] at others
      exact others

/-- Words for which there is room are written whole. -/
theorem bytes_extendWords {words : List UInt32}
    (room : frame.bytes.length + 4 * words.length ≤ maxFrameLength) :
    (frame.extendWords words).bytes = frame.bytes ++ Word.listToBytes words := by
  induction words generalizing frame with
  | nil => exact (List.append_nil _).symm
  | cons word rest ih =>
      rw [List.length_cons] at room
      have written : (frame.extend (Word.toBytes word)).bytes =
          frame.bytes ++ Word.toBytes word :=
        bytes_extend (by rw [Word.length_toBytes]; omega)
      have fits : (frame.extend (Word.toBytes word)).bytes.length + 4 * rest.length ≤
          maxFrameLength := by
        rw [written, List.length_append, Word.length_toBytes]
        omega
      have others := ih fits
      rw [written, List.append_assoc, ← Word.listToBytes_cons] at others
      exact others

end Frame

/-- The number of payload words, as the header carries it. -/
def wordCount (packet : Packet) : UInt8 :=
  UInt8.ofNat (min packet.payload.words.length 0xFF)

/-- The bytes before the payload. -/
def headerBytes (packet : Packet) : List UInt8 :=
  [packet.command.code, packet.recipient.raw, packet.sender.raw, packet.wordCount]

/-- The frame of a packet. -/
def encode (packet : Packet) : List UInt8 :=
  let body := (Frame.blank.extend packet.headerBytes).extendWords packet.payload.words
  (body.push (checksum body.bytes)).bytes

/-- The length of a packet's frame. -/
def encodedLength (packet : Packet) : Nat :=
  frameLength packet.payload.words.length

/-- The time to clock out a packet's frame, in whole microseconds. -/
def wireMicros (packet : Packet) : UInt64 :=
  WireTime.micros packet.payload.words.length

/-- Write a packet's frame at the front of a buffer.  The result is the frame
length and the buffer afterwards; a buffer that is too short is left as it
was. -/
def encodeInto (packet : Packet) (buffer : List UInt8) :
    Except CodecError Nat × List UInt8 :=
  let frame := packet.encode
  if frame.length ≤ buffer.length then
    (.ok frame.length, frame ++ buffer.drop frame.length)
  else
    (.error (.bufferTooSmall frame.length buffer.length), buffer)

/-- The bytes of a frame before its checksum. -/
def body (packet : Packet) : List UInt8 :=
  packet.headerBytes ++ Word.listToBytes packet.payload.words

@[simp]
theorem length_body (packet : Packet) :
    packet.body.length = headerLength + 4 * packet.payload.words.length := by
  simp only [body, headerBytes, headerLength, List.length_append, List.length_cons,
    List.length_nil, Word.length_listToBytes]

/-- A packet has room for its whole frame, so no byte of it is lost. -/
theorem encode_eq (packet : Packet) :
    packet.encode = packet.body ++ [checksum packet.body] := by
  have limit : packet.payload.words.length ≤ maxPayloadWords := packet.payload.length_le
  have most : maxFrameLength = headerLength + maxPayloadWords * 4 + 1 := rfl
  have short : packet.headerBytes.length = headerLength := rfl
  have header : (Frame.blank.extend packet.headerBytes).bytes = packet.headerBytes :=
    Frame.bytes_extend (by
      change 0 + packet.headerBytes.length ≤ _
      omega)
  have written : ((Frame.blank.extend packet.headerBytes).extendWords
      packet.payload.words).bytes = packet.body := by
    rw [Frame.bytes_extendWords (by rw [header]; omega), header]
    rfl
  rw [encode, Frame.bytes_push (by rw [written, length_body]; omega), written]

/-- A frame has the length its number of words demands. -/
@[simp]
theorem length_encode (packet : Packet) :
    packet.encode.length = packet.encodedLength := by
  rw [encode_eq, List.length_append, length_body, List.length_singleton, encodedLength,
    frameLength]
  omega

/-! ## Reading -/

/-- The bytes before the payload, by their meaning. -/
structure Header where
  command : UInt8
  recipient : UInt8
  sender : UInt8
  count : UInt8
  deriving DecidableEq, Repr

/-- The packet with a given header and payload. -/
def Header.packet (header : Header) (payload : Payload) : Packet where
  command := Command.ofCode header.command
  recipient := ⟨header.recipient⟩
  sender := ⟨header.sender⟩
  payload := payload

/-- Read the bytes before the payload. -/
def Cursor.header (cursor : Cursor) : Except CodecError (Header × Cursor) := do
  let (bytes, rest) ← cursor.take headerLength
  return (
    { command := bytes.getD 0 0
      recipient := bytes.getD 1 0
      sender := bytes.getD 2 0
      count := bytes.getD 3 0 },
    rest)

/-- Read words and append them to a payload.  When it has no room for one of
them, the number of words that were announced is reported. -/
def Cursor.words (announced : Nat) (cursor : Cursor) (payload : Payload) :
    Nat → Except CodecError Payload
  | 0 => .ok payload
  | left + 1 => do
      let (word, rest) ← cursor.word
      match payload.push? word with
      | some payload => rest.words announced payload left
      | none => .error (.payloadTooLong announced)

/-- Read the words that a header announces. -/
def Cursor.payload (cursor : Cursor) (count : UInt8) : Except CodecError Payload :=
  cursor.words count.toNat .empty count.toNat

/-- The packet whose frame is `bytes`. -/
def decode (bytes : List UInt8) : Except CodecError Packet :=
  if bytes.length < minFrameLength then
    .error (.framing minFrameLength bytes.length)
  else do
    let (header, cursor) ← (Cursor.start bytes).header
    let expected := frameLength header.count.toNat
    if bytes.length ≠ expected then
      .error (.framing expected bytes.length)
    else
      match bytes.getLast? with
      | none => .error (.framing expected bytes.length)
      | some carried =>
          let computed := checksum bytes.dropLast
          if computed ≠ carried then
            .error (.checksum computed carried)
          else do
            let payload ← cursor.payload header.count
            return header.packet payload

/-- The bytes of a frame, spelled out. -/
def dumpFrame (bytes : List UInt8) : String :=
  "Frame(" ++ Text.Hex.dump bytes ++ ")"

end MapleBus.Packet
