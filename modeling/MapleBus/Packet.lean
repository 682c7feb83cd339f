import MapleBus.Address
import MapleBus.Command
import MapleBus.Error

/-!
# Packets

A packet is a command between two addresses with a payload of words.  The
limit of 255 words, set by the one-byte word count of a frame, is part of the
type, so no later module has to ask whether a packet can be written.
-/

namespace MapleBus

/-- The most words a packet can carry. -/
def maxPayloadWords : Nat := 255

/-- The words of a packet, in transmission order. -/
structure Payload where
  words : List UInt32
  length_le : words.length ≤ maxPayloadWords
  deriving DecidableEq, Repr

namespace Payload

/-- The payload without words. -/
def empty : Payload :=
  ⟨[], Nat.zero_le _⟩

instance : Inhabited Payload :=
  ⟨empty⟩

/-- The payload of the given words, if there is room for all of them. -/
def ofList? (words : List UInt32) : Option Payload :=
  if fits : words.length ≤ maxPayloadWords then
    some ⟨words, fits⟩
  else
    none

/-- Append a word, if there is room for it. -/
def push? (payload : Payload) (word : UInt32) : Option Payload :=
  ofList? (payload.words ++ [word])

/-- The payload of the leading words there is room for. -/
def truncate (words : List UInt32) : Payload :=
  ⟨words.take maxPayloadWords, by simp only [List.length_take]; omega⟩

@[ext]
theorem ext {first second : Payload} (words : first.words = second.words) :
    first = second := by
  cases first
  cases second
  cases words
  rfl

theorem ofList?_of_fits {words : List UInt32} (fits : words.length ≤ maxPayloadWords) :
    ofList? words = some ⟨words, fits⟩ :=
  dif_pos fits

/-- Words that fit are kept whole. -/
theorem truncate_words {words : List UInt32} (fits : words.length ≤ maxPayloadWords) :
    (truncate words).words = words :=
  List.take_of_length_le fits

end Payload

/-- A message on the bus. -/
structure Packet where
  command : Command
  recipient : Address
  sender : Address
  payload : Payload := Payload.empty
  deriving DecidableEq, Repr, Inhabited

namespace Packet

/-- A packet that carries all the given words, or the refusal of too many. -/
def withPayload (command : Command) (recipient sender : Address)
    (words : List UInt32) : Except CodecError Packet :=
  match Payload.ofList? words with
  | some payload => .ok { command, recipient, sender, payload }
  | none => .error (.payloadTooLong words.length)

/-- A packet that carries as many of the leading words as fit. -/
def carrying (command : Command) (recipient sender : Address)
    (words : List UInt32) : Packet :=
  { command, recipient, sender, payload := Payload.truncate words }

/-- The packet's fields, spelled out. -/
def dump (packet : Packet) : String :=
  let words := packet.payload.words.map fun word => toString word.toNat
  "MaplePacket \x7b command: " ++ packet.command.name ++
    s!", recipient: BusAddress({packet.recipient.raw.toNat})" ++
    s!", sender: BusAddress({packet.sender.raw.toNat})" ++
    ", payload: [" ++ ", ".intercalate words ++ "] \x7d"

end Packet

end MapleBus
