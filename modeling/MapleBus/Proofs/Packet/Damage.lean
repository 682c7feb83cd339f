import MapleBus.Proofs.Packet.Codec

/-!
# Damage to a frame is noticed

The checksum keeps the exclusive or of a frame at zero, column by column of its
bytes.  Bits are counted through all bytes, in either order within a byte, so
that eight bits in a row stand in eight columns, whether they share a byte or
not.  Flipping some of them therefore leaves a column odd, and no reading
overlooks that: when the fourth byte is hit and announces another length, the
length is refused first.  A frame that is cut short or continued still
announces the length it had.
-/

namespace MapleBus.Packet

/-! ## Bits of a frame -/

/-- The order in which the bits of a byte follow one another. -/
inductive BitOrder where
  | highFirst
  | lowFirst
  deriving DecidableEq, Repr

/-- The column of the bit at a position. -/
def BitOrder.column : BitOrder → Nat → Nat
  | highFirst, position => 7 - position % 8
  | lowFirst, position => position % 8

/-- The byte with a single bit set. -/
def bit (column : Nat) : UInt8 :=
  ⟨BitVec.twoPow 8 column⟩

/-- Flip the bit at a position. -/
def flipBit (order : BitOrder) (bytes : List UInt8) (position : Nat) : List UInt8 :=
  bytes.modify (position / 8) (· ^^^ bit (order.column position))

/-- Flip the bits at some positions. -/
def flipBits (order : BitOrder) (bytes : List UInt8) (positions : List Nat) : List UInt8 :=
  positions.foldl (flipBit order) bytes

/-- Some bits of the bytes, each once, that lie within eight in a row. -/
structure IsBurst (bytes : List UInt8) (positions : List Nat) : Prop where
  nonempty : positions ≠ []
  distinct : positions.Nodup
  inside : ∀ position ∈ positions, position < 8 * bytes.length
  window : ∃ start, ∀ position ∈ positions, start ≤ position ∧ position < start + 8

variable {bytes : List UInt8} {order : BitOrder} {positions columns : List Nat}

/-! ## What a flipped bit does to the exclusive or -/

theorem checksum_cons (first : UInt8) (rest : List UInt8) :
    checksum (first :: rest) = first ^^^ checksum rest := by
  calc
    checksum (first :: rest) = rest.foldl (· ^^^ ·) (0 ^^^ first) := rfl
    _ = rest.foldl (· ^^^ ·) (first ^^^ 0) := by rw [UInt8.xor_comm]
    _ = first ^^^ checksum rest := List.foldl_assoc

theorem checksum_modify {index : Nat} (inside : index < bytes.length) (mask : UInt8) :
    checksum (bytes.modify index (· ^^^ mask)) = checksum bytes ^^^ mask := by
  induction bytes generalizing index with
  | nil => contradiction
  | cons first rest ih =>
      cases index with
      | zero =>
          rw [List.modify_zero_cons, checksum_cons, checksum_cons, UInt8.xor_assoc,
            UInt8.xor_comm mask, UInt8.xor_assoc]
      | succ index =>
          have below : index < rest.length := Nat.lt_of_succ_lt_succ inside
          rw [List.modify_succ_cons, checksum_cons, checksum_cons, ih below, UInt8.xor_assoc]

/-- Flipping bits adds them to the exclusive or. -/
theorem checksum_flipBits (inside : ∀ position ∈ positions, position < 8 * bytes.length) :
    checksum (flipBits order bytes positions) =
      checksum bytes ^^^ checksum (positions.map fun position => bit (order.column position)) := by
  induction positions generalizing bytes with
  | nil => exact UInt8.xor_zero.symm
  | cons position rest ih =>
      have here : position / 8 < bytes.length := by
        have within := inside position List.mem_cons_self
        omega
      have others : ∀ other ∈ rest, other < 8 * (flipBit order bytes position).length := by
        intro other mem
        rw [flipBit, List.length_modify]
        exact inside other (List.mem_cons_of_mem _ mem)
      rw [List.map_cons, checksum_cons, ← UInt8.xor_assoc, ← checksum_modify here]
      exact ih others

/-- The exclusive or of bits in different columns has exactly these bits. -/
theorem getLsbD_checksum_bits (distinct : columns.Nodup) (low : ∀ column ∈ columns, column < 8)
    (column : Nat) :
    (checksum (columns.map bit)).toBitVec.getLsbD column = decide (column ∈ columns) := by
  induction columns with
  | nil => simp [checksum]
  | cons first rest ih =>
      obtain ⟨fresh, distinct⟩ := List.nodup_cons.mp distinct
      have others := ih distinct fun other mem => low other (List.mem_cons_of_mem _ mem)
      have small : first < 8 := low first List.mem_cons_self
      rw [List.map_cons, checksum_cons, UInt8.toBitVec_xor, BitVec.getLsbD_xor, others, bit,
        BitVec.getLsbD_twoPow]
      by_cases same : first = column
      · subst same
        simp [small, fresh]
      · simp [same, Ne.symm same]

/-- Bits that lie within eight in a row stand in different columns. -/
theorem nodup_columns (burst : IsBurst bytes positions) :
    (positions.map order.column).Nodup := by
  obtain ⟨start, window⟩ := burst.window
  refine List.pairwise_map.mpr (burst.distinct.imp_of_mem ?_)
  intro first second firstMem secondMem different same
  have firstWindow := window first firstMem
  have secondWindow := window second secondMem
  cases order <;> simp only [BitOrder.column] at same <;> omega

/-- A burst leaves some column with an odd number of flips. -/
theorem checksum_burst_ne_zero (burst : IsBurst bytes positions) :
    checksum (positions.map fun position => bit (order.column position)) ≠ 0 := by
  have low : ∀ column ∈ positions.map order.column, column < 8 := by
    intro column mem
    obtain ⟨position, -, rfl⟩ := List.mem_map.mp mem
    cases order <;> simp only [BitOrder.column] <;> omega
  obtain ⟨first, firstMem⟩ := List.exists_mem_of_ne_nil positions burst.nonempty
  have odd := getLsbD_checksum_bits (nodup_columns burst) low (order.column first)
  rw [decide_eq_true (List.mem_map_of_mem firstMem), List.map_map] at odd
  intro even
  have none : (0 : UInt8).toBitVec.getLsbD (order.column first) = false := BitVec.getLsbD_zero
  rw [← even] at none
  exact Bool.false_ne_true (none.symm.trans odd)

/-! ## Frames that are damaged -/

/-- The damage to a frame that reading notices. -/
structure DamageNoticed (frame : List UInt8) : Prop where
  /-- Flipping any bits that lie within eight in a row. -/
  burst : ∀ order positions, IsBurst frame positions →
    Refused (flipBits order frame positions)
  /-- Changing a byte. -/
  byte : ∀ index byte (inside : index < frame.length), byte ≠ frame[index] →
    Refused (frame.set index byte)
  /-- Leaving out bytes at the end. -/
  cut : ∀ part, part <+: frame → part ≠ frame →
    decode part = .error (.framing (if part.length < 5 then 5 else frame.length) part.length)
  /-- Adding bytes at the end. -/
  continued : ∀ extra, extra ≠ [] →
    decode (frame ++ extra) = .error (.framing frame.length (frame ++ extra).length)

theorem checksum_set {index : Nat} (inside : index < bytes.length) (byte : UInt8) :
    checksum (bytes.set index byte) = checksum bytes ^^^ (bytes[index] ^^^ byte) := by
  have known : bytes[index]?.getD default = bytes[index] := by
    rw [List.getElem?_eq_getElem inside, Option.getD_some]
  rw [← checksum_modify inside, List.modify_eq_set, known, ← UInt8.xor_assoc, UInt8.xor_self,
    UInt8.zero_xor]

theorem announced_append {part : List UInt8} (enough : 5 ≤ part.length) (rest : List UInt8) :
    announced (part ++ rest) = announced part := by
  have inside : 3 < part.length := by omega
  simp only [announced, List.getD_eq_getElem?_getD, List.getElem?_append_left inside]

/-- Bytes whose exclusive or differs from that of a frame are refused. -/
theorem refused_of_checksum {damaged : List UInt8} {mask : UInt8} (sound : checksum bytes = 0)
    (damage : checksum damaged = checksum bytes ^^^ mask) (marked : mask ≠ 0) :
    Refused damaged := by
  apply refused_of_not_isFrame
  rintro ⟨-, -, damagedSound⟩
  rw [damagedSound, sound, UInt8.zero_xor] at damage
  exact marked damage.symm

/-- Whatever frame is damaged, reading notices it. -/
theorem damageNoticed_of_isFrame (frame : IsFrame bytes) : DamageNoticed bytes := by
  obtain ⟨enough, fits, sound⟩ := frame
  exact {
    burst := fun order positions burst =>
      refused_of_checksum sound (checksum_flipBits burst.inside) (checksum_burst_ne_zero burst)
    byte := by
      intro index byte inside different
      apply refused_of_checksum sound (checksum_set inside byte)
      intro same
      exact different (UInt8.xor_eq_zero_iff.mp same).symm
    cut := by
      rintro part ⟨rest, rfl⟩ proper
      by_cases short : part.length < 5
      · rw [if_pos short]
        exact decode_of_short short
      · have announces := announced_append (Nat.not_lt.mp short) rest
        have more : rest ≠ [] := by
          rintro rfl
          exact proper (List.append_nil part).symm
        have longer := List.length_pos_iff.mpr more
        rw [announces] at fits
        rw [if_neg short, fits]
        apply decode_of_misfit (Nat.not_lt.mp short)
        rw [← fits, List.length_append]
        omega
    continued := by
      intro extra more
      have announces := announced_append enough extra
      have longer := List.length_pos_iff.mpr more
      rw [fits, ← announces]
      apply decode_of_misfit
      · rw [List.length_append]
        omega
      · rw [announces, ← fits, List.length_append]
        omega }

/-- Damage to the frame of any packet is noticed. -/
theorem encode_damageNoticed (packet : Packet) : DamageNoticed packet.encode :=
  damageNoticed_of_isFrame (isFrame_encode packet)

/-- Two bits of a row that reaches into the word count. -/
example : decode (flipBits .highFirst [0x01, 0x20, 0x00, 0x00, 0x21] [23, 30]) =
    .error (.framing 13 5) :=
  rfl

end MapleBus.Packet
