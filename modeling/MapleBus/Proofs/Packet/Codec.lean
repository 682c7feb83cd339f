import MapleBus.Packet.Frame
import Mathlib.Tactic.ByContra

/-!
# Reading accepts exactly the frames

Bytes are a frame when they are as many as their fourth byte announces and
their exclusive or is zero.  Frames are what writing produces and all that
reading accepts: a frame that is read and written again is the same frame, and
a packet that is written and read again is the same packet, but for a command
whose byte has another name.  Once the length is right, the cursor cannot run
out of bytes and the payload cannot run out of room.
-/

namespace MapleBus

namespace Command

/-- Whether some command of the table has the given byte. -/
def InTable (code : UInt8) : Prop :=
  ∃ command : Command, (∀ other, command ≠ .unknown other) ∧ command.code = code

/-- A command of the table is read back from its byte. -/
theorem ofCode_code {command : Command} (named : ∀ other, command ≠ .unknown other) :
    ofCode command.code = command := by
  cases command with
  | unknown code => exact absurd rfl (named code)
  | _ => rfl

/-- A byte outside the table stands for itself. -/
theorem ofCode_eq_unknown_iff {code : UInt8} :
    ofCode code = .unknown code ↔ ¬ InTable code := by
  constructor
  · rintro outside ⟨command, named, rfl⟩
    rw [ofCode_code named] at outside
    exact named command.code outside
  · intro outside
    by_contra inside
    refine outside ⟨ofCode code, ?_, code_ofCode code⟩
    intro other equal
    have same : other = code := by
      rw [← code_ofCode code, equal]
      rfl
    rw [same] at equal
    exact inside equal

/-- Reading the byte of a command gives the command back unless it is kept
under a byte of the table. -/
theorem ofCode_code_eq_iff {command : Command} :
    ofCode command.code = command ↔ ¬ ∃ code, command = .unknown code ∧ InTable code := by
  by_cases named : ∀ other, command ≠ .unknown other
  · refine iff_of_true (ofCode_code named) ?_
    rintro ⟨code, equal, -⟩
    exact named code equal
  · obtain ⟨code, rfl⟩ : ∃ code, command = .unknown code := by simpa using named
    simp only [unknown.injEq, exists_eq_left']
    exact ofCode_eq_unknown_iff

end Command

namespace Packet

variable {packet : Packet} {bytes middle : List UInt8} {carried : UInt8}

/-! ## The exclusive or of bytes -/

theorem checksum_concat (front : List UInt8) (last : UInt8) :
    checksum (front ++ [last]) = checksum front ^^^ last := by
  simp [checksum]

/-- The last byte makes the exclusive or zero exactly when it is that of the
others. -/
theorem checksum_concat_eq_zero_iff {front : List UInt8} {last : UInt8} :
    checksum (front ++ [last]) = 0 ↔ checksum front = last := by
  rw [checksum_concat, UInt8.xor_eq_zero_iff]

/-! ## Frames -/

/-- How many words the fourth byte announces. -/
def announced (bytes : List UInt8) : Nat :=
  (bytes.getD 3 0).toNat

/-- The bytes are as many as the fourth announces, and their exclusive or is
zero. -/
def IsFrame (bytes : List UInt8) : Prop :=
  5 ≤ bytes.length ∧ bytes.length = 4 * announced bytes + 5 ∧ checksum bytes = 0

instance : DecidablePred IsFrame :=
  fun bytes => inferInstanceAs (Decidable (5 ≤ bytes.length ∧
    bytes.length = 4 * announced bytes + 5 ∧ checksum bytes = 0))

/-- Bytes with a header and a checksum, in their parts. -/
def assemble (header : Header) (middle : List UInt8) (carried : UInt8) : List UInt8 :=
  [header.command, header.recipient, header.sender, header.count] ++ middle ++ [carried]

theorem exists_concat (enough : 5 ≤ bytes.length) : ∃ front last, bytes = front ++ [last] := by
  refine ⟨bytes.dropLast, bytes.getLast ?_, (List.dropLast_concat_getLast _).symm⟩
  rintro rfl
  contradiction

/-- Bytes that are enough for a frame have its parts. -/
theorem exists_assemble (enough : 5 ≤ bytes.length) :
    ∃ header middle carried, bytes = assemble header middle carried := by
  obtain ⟨front, carried, rfl⟩ := exists_concat enough
  rw [List.length_append, List.length_singleton] at enough
  match front, enough with
  | command :: recipient :: sender :: count :: middle, _ =>
      exact ⟨⟨command, recipient, sender, count⟩, middle, carried, rfl⟩

/-! ## Reading the parts -/

section Parts

variable {header : Header} {cursor : Cursor} {payload : Payload}

@[simp]
theorem length_assemble : (assemble header middle carried).length = middle.length + 5 := by
  simp [assemble]

@[simp]
theorem announced_assemble : announced (assemble header middle carried) = header.count.toNat :=
  rfl

theorem getLast?_assemble : (assemble header middle carried).getLast? = some carried :=
  List.getLast?_concat

/-- The bytes of a frame are enough for its header. -/
theorem header_assemble (header : Header) (middle : List UInt8) (carried : UInt8) :
    ∃ cursor, (Cursor.start (assemble header middle carried)).header = .ok (header, cursor) ∧
      cursor.unread = middle ++ [carried] := by
  have enough : headerLength ≤ (Cursor.start (assemble header middle carried)).remaining := by
    rw [← Cursor.length_unread, Cursor.unread_start, length_assemble, headerLength]
    omega
  obtain ⟨cursor, taken, unread⟩ := Cursor.take_of_le enough
  refine ⟨cursor, ?_, unread⟩
  rw [Cursor.header, taken]
  rfl

/-- Enough bytes for a word are four and others. -/
theorem exists_four (enough : 4 ≤ bytes.length) :
    ∃ first second third fourth later,
      bytes = first :: second :: third :: fourth :: later := by
  match bytes, enough with
  | first :: second :: third :: fourth :: later, _ =>
      exact ⟨first, second, third, fourth, later, rfl⟩

/-- As many words are read as there are bytes and room for. -/
theorem words_of_room (limit : Nat) (count : Nat) (enough : 4 * count ≤ cursor.remaining)
    (room : payload.words.length + count ≤ maxPayloadWords) :
    ∃ filled, cursor.words limit payload count = .ok filled ∧
      filled.words = payload.words ++ Word.listOfBytes (cursor.unread.take (4 * count)) := by
  induction count generalizing cursor payload with
  | zero =>
      refine ⟨payload, rfl, ?_⟩
      simp [Word.listOfBytes]
  | succ count ih =>
      rw [← Cursor.length_unread] at enough
      obtain ⟨first, second, third, fourth, later, next⟩ :=
        exists_four (Nat.le_trans (Nat.le_add_left 4 (4 * count)) enough)
      obtain ⟨rest, read, behind⟩ := Cursor.word_of_unread next
      rw [next] at enough ⊢
      have fits : (payload.words ++ [Word.ofBytes first second third fourth]).length ≤
          maxPayloadWords := by
        rw [List.length_append, List.length_singleton]
        omega
      have pushed := Payload.ofList?_of_fits fits
      have left : 4 * count ≤ rest.remaining := by
        rw [← Cursor.length_unread, behind]
        simp only [List.length_cons] at enough
        omega
      have more : (Payload.mk _ fits).words.length + count ≤ maxPayloadWords := by
        rw [List.length_append, List.length_singleton]
        omega
      obtain ⟨filled, readOn, words⟩ := ih left more
      refine ⟨filled, ?_, ?_⟩
      · rw [Cursor.words, read]
        simp only [bind, Except.bind, Payload.push?, pushed]
        exact readOn
      · rw [words, behind, Nat.mul_succ]
        simp [Word.listOfBytes]

/-- Bytes of the announced length hold the announced words. -/
theorem payload_of_length (count : UInt8) (whole : middle.length = 4 * count.toNat)
    (unread : cursor.unread = middle ++ [carried]) :
    ∃ payload, cursor.payload count = .ok payload ∧
      payload.words = Word.listOfBytes middle := by
  have bound := count.toNat_lt
  have enough : 4 * count.toNat ≤ cursor.remaining := by
    rw [← Cursor.length_unread, unread, List.length_append]
    omega
  have room : Payload.empty.words.length + count.toNat ≤ maxPayloadWords := by
    change 0 + count.toNat ≤ 255
    omega
  obtain ⟨payload, read, words⟩ := words_of_room count.toNat count.toNat enough room
  refine ⟨payload, read, ?_⟩
  rw [words, unread, ← whole, List.take_left]
  rfl

/-! ## What reading decides -/

theorem decode_of_short (short : bytes.length < 5) :
    decode bytes = .error (.framing 5 bytes.length) := by
  rw [decode, if_pos]
  · rfl
  · exact short

/-- Once the header has been read, the length is checked and then the checksum,
and then the words are read. -/
theorem decode_assemble (header : Header) (middle : List UInt8) (carried : UInt8) :
    ∃ cursor : Cursor, cursor.unread = middle ++ [carried] ∧
      decode (assemble header middle carried) =
        if middle.length + 5 = 4 * header.count.toNat + 5 then
          if checksum (assemble header middle carried) = 0 then do
            let payload ← cursor.payload header.count
            return header.packet payload
          else
            .error (.checksum (checksum (assemble header middle carried).dropLast) carried)
        else
          .error (.framing (4 * header.count.toNat + 5) (middle.length + 5)) := by
  obtain ⟨cursor, read, unread⟩ := header_assemble header middle carried
  refine ⟨cursor, unread, ?_⟩
  have enough : ¬ (assemble header middle carried).length < minFrameLength := by
    rw [length_assemble]
    exact Nat.not_lt.mpr (Nat.le_add_left _ _)
  have demanded : frameLength header.count.toNat = 4 * header.count.toNat + 5 := by
    rw [frameLength, headerLength]
    omega
  have agrees : checksum (assemble header middle carried).dropLast ≠ carried ↔
      ¬ checksum (assemble header middle carried) = 0 := by
    rw [assemble, List.dropLast_concat, checksum_concat_eq_zero_iff]
  rw [decode, if_neg enough, read]
  simp only [bind, Except.bind, getLast?_assemble, agrees, demanded, ite_not, length_assemble]

/-- Reading a frame yields the packet of its parts. -/
theorem decode_of_sound (header : Header) (fits : middle.length = 4 * header.count.toNat)
    (sound : checksum (assemble header middle carried) = 0) :
    ∃ payload, decode (assemble header middle carried) = .ok (header.packet payload) ∧
      payload.words = Word.listOfBytes middle := by
  obtain ⟨cursor, unread, decoded⟩ := decode_assemble header middle carried
  obtain ⟨payload, read, words⟩ := payload_of_length header.count fits unread
  refine ⟨payload, ?_, words⟩
  rw [decoded, if_pos (by omega), if_pos sound, read]
  rfl

/-- The bytes of a frame before its checksum come from the packet that is read. -/
theorem body_packet {payload : Payload} (header : Header)
    (fits : middle.length = 4 * header.count.toNat)
    (words : payload.words = Word.listOfBytes middle) :
    (header.packet payload).body =
      [header.command, header.recipient, header.sender, header.count] ++ middle := by
  have length : payload.words.length = header.count.toNat := by
    rw [words, Word.length_listOfBytes]
    omega
  have count : (header.packet payload).wordCount = header.count := by
    have bound := header.count.toNat_lt
    have most : min header.count.toNat 0xFF = header.count.toNat := by omega
    rw [wordCount]
    change UInt8.ofNat (min payload.words.length 0xFF) = header.count
    rw [length, most, UInt8.ofNat_toNat]
  have whole := Word.listToBytes_listOfBytes middle header.count.toNat fits
  rw [body, headerBytes, count]
  change [(Command.ofCode header.command).code, _, _, _] ++ Word.listToBytes payload.words = _
  rw [words, whole, Command.code_ofCode]
  rfl

/-- A frame that is read and written again is the same frame. -/
theorem encode_packet {payload : Payload} (header : Header)
    (fits : middle.length = 4 * header.count.toNat)
    (sound : checksum (assemble header middle carried) = 0)
    (words : payload.words = Word.listOfBytes middle) :
    (header.packet payload).encode = assemble header middle carried := by
  have before := body_packet header fits words
  have last : checksum (header.packet payload).body = carried := by
    rw [before]
    exact checksum_concat_eq_zero_iff.mp sound
  rw [encode_eq, last, before]
  rfl

end Parts

/-- Bytes that are not as many as the fourth announces are not read. -/
theorem decode_of_misfit (enough : 5 ≤ bytes.length)
    (misfit : bytes.length ≠ 4 * announced bytes + 5) :
    decode bytes = .error (.framing (4 * announced bytes + 5) bytes.length) := by
  obtain ⟨header, middle, carried, rfl⟩ := exists_assemble enough
  obtain ⟨cursor, -, decoded⟩ := decode_assemble header middle carried
  rw [length_assemble, announced_assemble] at misfit ⊢
  rw [decoded, if_neg misfit]

/-- Bytes whose last is not the exclusive or of the others are not read. -/
theorem decode_of_corrupt {front : List UInt8} {last : UInt8}
    (enough : 5 ≤ (front ++ [last]).length)
    (fits : (front ++ [last]).length = 4 * announced (front ++ [last]) + 5)
    (corrupt : checksum (front ++ [last]) ≠ 0) :
    decode (front ++ [last]) = .error (.checksum (checksum front) last) := by
  obtain ⟨header, middle, carried, split⟩ := exists_assemble enough
  obtain ⟨cursor, -, decoded⟩ := decode_assemble header middle carried
  have behind := congrArg List.getLast? split
  rw [getLast?_assemble, List.getLast?_concat] at behind
  rw [split, length_assemble, announced_assemble] at fits
  obtain rfl : last = carried := Option.some.inj behind
  rw [← split, List.dropLast_concat] at decoded
  rw [decoded, if_pos fits, if_neg corrupt]

/-- A frame is read as the packet that has it. -/
theorem decode_of_isFrame (frame : IsFrame bytes) :
    ∃ packet, decode bytes = .ok packet ∧ packet.encode = bytes := by
  obtain ⟨enough, fits, sound⟩ := frame
  obtain ⟨header, middle, carried, rfl⟩ := exists_assemble enough
  have whole : middle.length = 4 * header.count.toNat := by
    rw [length_assemble, announced_assemble] at fits
    omega
  obtain ⟨payload, decoded, words⟩ := decode_of_sound header whole sound
  exact ⟨header.packet payload, decoded, encode_packet header whole sound words⟩

/-- The bytes are not read, for their length or for their checksum. -/
def Refused (bytes : List UInt8) : Prop :=
  (∃ expected, decode bytes = .error (.framing expected bytes.length)) ∨
    ∃ computed carried, decode bytes = .error (.checksum computed carried)

/-- Bytes that are no frame are refused. -/
theorem refused_of_not_isFrame (noFrame : ¬ IsFrame bytes) : Refused bytes := by
  by_cases short : bytes.length < 5
  · exact Or.inl ⟨_, decode_of_short short⟩
  · have enough : 5 ≤ bytes.length := Nat.not_lt.mp short
    by_cases fits : bytes.length = 4 * announced bytes + 5
    · obtain ⟨front, last, rfl⟩ := exists_concat enough
      exact Or.inr ⟨_, _, decode_of_corrupt enough fits fun sound =>
        noFrame ⟨enough, fits, sound⟩⟩
    · exact Or.inl ⟨_, decode_of_misfit enough fits⟩

theorem isFrame_of_decode (decoded : decode bytes = .ok packet) : IsFrame bytes := by
  by_contra noFrame
  rcases refused_of_not_isFrame noFrame with ⟨expected, failed⟩ | ⟨computed, carried, failed⟩
  · rw [failed] at decoded
    contradiction
  · rw [failed] at decoded
    contradiction

/-- What reading makes of bytes. -/
structure ReadExactly (bytes : List UInt8) : Prop where
  /-- Exactly the frames are read. -/
  succeeds_iff : (∃ packet, decode bytes = .ok packet) ↔ IsFrame bytes
  /-- Writing what was read gives the bytes back. -/
  encode_eq : ∀ packet, decode bytes = .ok packet → packet.encode = bytes
  /-- Bytes that are too few for any frame. -/
  short : bytes.length < 5 → decode bytes = .error (.framing 5 bytes.length)
  /-- Bytes that are not as many as the fourth announces. -/
  misfit : 5 ≤ bytes.length → bytes.length ≠ 4 * announced bytes + 5 →
    decode bytes = .error (.framing (4 * announced bytes + 5) bytes.length)
  /-- Bytes whose last is not the exclusive or of the others. -/
  corrupt : ∀ front last, bytes = front ++ [last] → 5 ≤ bytes.length →
    bytes.length = 4 * announced bytes + 5 → checksum bytes ≠ 0 →
      decode bytes = .error (.checksum (checksum front) last)
  /-- No read by the cursor fails, and the payload takes every word. -/
  reads_succeed : 5 ≤ bytes.length →
    ∃ header cursor, (Cursor.start bytes).header = .ok (header, cursor) ∧
      header.count.toNat = announced bytes ∧
      (bytes.length = 4 * announced bytes + 5 →
        ∃ payload, cursor.payload header.count = .ok payload)

/-- Whatever the bytes, reading them succeeds exactly when they are a frame,
undoes writing, and otherwise says what is wrong with them. -/
theorem decode_readExactly (bytes : List UInt8) : ReadExactly bytes where
  succeeds_iff := by
    constructor
    · rintro ⟨packet, decoded⟩
      exact isFrame_of_decode decoded
    · intro frame
      obtain ⟨packet, decoded, -⟩ := decode_of_isFrame frame
      exact ⟨packet, decoded⟩
  encode_eq := by
    intro packet decoded
    obtain ⟨read, readDecoded, written⟩ := decode_of_isFrame (isFrame_of_decode decoded)
    rw [decoded] at readDecoded
    rw [Except.ok.inj readDecoded]
    exact written
  short := decode_of_short
  misfit := decode_of_misfit
  corrupt := by
    rintro front last rfl enough fits corrupt
    exact decode_of_corrupt enough fits corrupt
  reads_succeed := by
    intro enough
    obtain ⟨header, middle, carried, rfl⟩ := exists_assemble enough
    obtain ⟨cursor, read, unread⟩ := header_assemble header middle carried
    refine ⟨header, cursor, read, rfl, ?_⟩
    intro fits
    rw [length_assemble, announced_assemble] at fits
    obtain ⟨payload, filled, -⟩ := payload_of_length header.count (by omega) unread
    exact ⟨payload, filled⟩

/-! ## Writing -/

/-- The bytes before the payload, by their meaning. -/
def header (packet : Packet) : Header where
  command := packet.command.code
  recipient := packet.recipient.raw
  sender := packet.sender.raw
  count := packet.wordCount

/-- No packet has more words than its word count can tell. -/
theorem toNat_wordCount (packet : Packet) :
    packet.wordCount.toNat = packet.payload.words.length := by
  have limit : packet.payload.words.length ≤ 255 := packet.payload.length_le
  rw [wordCount, UInt8.toNat_ofNat']
  omega

theorem encode_eq_assemble (packet : Packet) :
    packet.encode =
      assemble packet.header (Word.listToBytes packet.payload.words) (checksum packet.body) :=
  encode_eq packet

/-- A packet that is written is read back, its command by its byte. -/
theorem decode_encode (packet : Packet) :
    decode packet.encode = .ok { packet with command := Command.ofCode packet.command.code } := by
  have fits : (Word.listToBytes packet.payload.words).length =
      4 * packet.header.count.toNat := by
    rw [Word.length_listToBytes]
    exact congrArg (4 * ·) (toNat_wordCount packet).symm
  have sound : checksum (assemble packet.header (Word.listToBytes packet.payload.words)
      (checksum packet.body)) = 0 :=
    checksum_concat_eq_zero_iff.mpr rfl
  obtain ⟨payload, decoded, words⟩ := decode_of_sound packet.header fits sound
  have regrouped := Word.listOfBytes_listToBytes_append packet.payload.words [] (by simp)
  rw [List.append_nil] at regrouped
  have same : payload = packet.payload := Payload.ext (words.trans regrouped)
  rw [encode_eq_assemble, decoded, same]
  rfl

theorem isFrame_encode (packet : Packet) : IsFrame packet.encode :=
  isFrame_of_decode (decode_encode packet)

/-- What writing makes of a packet. -/
structure WrittenWhole (packet : Packet) : Prop where
  /-- The bytes of a frame, in order. -/
  layout : packet.encode =
    packet.command.code :: packet.recipient.raw :: packet.sender.raw ::
      UInt8.ofNat packet.payload.words.length ::
        (packet.payload.words.flatMap Word.toBytes ++ [checksum packet.encode.dropLast])
  length : packet.encode.length = 4 * packet.payload.words.length + 5
  /-- The fourth byte tells the number of words. -/
  count : ∃ count, packet.encode[3]? = some count ∧
    count.toNat = packet.payload.words.length
  /-- The frame is read as the packet, its command by its byte. -/
  reads_back : decode packet.encode =
    .ok { packet with command := Command.ofCode packet.command.code }
  /-- The packet itself is read back unless its command is kept under a byte of
  the table. -/
  reads_back_iff : decode packet.encode = .ok packet ↔
    ¬ ∃ code, packet.command = .unknown code ∧ Command.InTable code
  /-- A buffer that is long enough has the frame in front and is otherwise as it
  was. -/
  into_long : ∀ buffer, packet.encode.length ≤ buffer.length →
    (packet.encodeInto buffer).1 = .ok packet.encode.length ∧
      (packet.encodeInto buffer).2.take packet.encode.length = packet.encode ∧
      (packet.encodeInto buffer).2.drop packet.encode.length =
        buffer.drop packet.encode.length ∧
      (packet.encodeInto buffer).2.length = buffer.length
  /-- A buffer that is too short stays as it was. -/
  into_short : ∀ buffer, buffer.length < packet.encode.length →
    packet.encodeInto buffer =
      (.error (.bufferTooSmall packet.encode.length buffer.length), buffer)

/-- Every packet is written whole. -/
theorem encode_writtenWhole (packet : Packet) : WrittenWhole packet where
  layout := by
    have limit : packet.payload.words.length ≤ 255 := packet.payload.length_le
    have most : min packet.payload.words.length 0xFF = packet.payload.words.length := by omega
    have before : packet.encode.dropLast = packet.body := by
      rw [encode_eq, List.dropLast_concat]
    rw [before, encode_eq, body, headerBytes, wordCount, most]
    rfl
  length := by
    rw [length_encode, encodedLength, frameLength, headerLength]
    omega
  count := by
    refine ⟨packet.wordCount, ?_, toNat_wordCount packet⟩
    rw [encode_eq]
    rfl
  reads_back := decode_encode packet
  reads_back_iff := by
    rw [decode_encode, Except.ok.injEq, ← Command.ofCode_code_eq_iff]
    constructor
    · intro same
      exact congrArg Packet.command same
    · intro same
      rw [same]
  into_long := by
    intro buffer fits
    have written : packet.encodeInto buffer =
        (.ok packet.encode.length, packet.encode ++ buffer.drop packet.encode.length) :=
      if_pos fits
    rw [written]
    refine ⟨rfl, List.take_left, List.drop_left, ?_⟩
    rw [List.length_append, List.length_drop]
    omega
  into_short := by
    intro buffer short
    exact if_neg (Nat.not_le.mpr short)

/-- The shortest frame there is. -/
example : encode { command := .deviceInfoRequest, recipient := ⟨0x20⟩, sender := ⟨0x00⟩ } =
    [0x01, 0x20, 0x00, 0x00, 0x21] := by
  decide

end Packet

end MapleBus
