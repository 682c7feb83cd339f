import MapleBus.Text.Hex

/-!
# Bus addresses

An address byte carries the player slot in its two high bits.  The other six
select an endpoint on that player's bus: all clear for the host port, only
bit five for the main peripheral, and exactly one of the bits zero to four for
an expansion plugged into the main peripheral.
-/

namespace MapleBus

/-- The address byte of an endpoint. -/
structure Address where
  raw : UInt8
  deriving DecidableEq, Repr, Inhabited

namespace Address

/-- Player slots on the console. -/
def maxPlayers : UInt8 := 4

/-- Expansion slots behind one main peripheral. -/
def maxExpansions : UInt8 := 5

/-- The host port of a player.  Only the two low bits of the slot number are
kept. -/
def host (player : UInt8) : Address :=
  ⟨(player <<< 6) &&& 0xC0⟩

/-- The main peripheral of a player. -/
def main (player : UInt8) : Address :=
  ⟨(host player).raw ||| 0x20⟩

/-- The expansion in `slot` behind a player's main peripheral, for the slots
zero to four. -/
def expansion? (player slot : UInt8) : Option Address :=
  if slot < maxExpansions then
    some ⟨(host player).raw ||| (1 <<< slot)⟩
  else
    none

/-- The player slot an address belongs to. -/
def player (address : Address) : UInt8 :=
  (address.raw &&& 0xC0) >>> 6

/-- The six bits that select an endpoint. -/
def endpoint (address : Address) : UInt8 :=
  address.raw &&& 0x3F

/-- Whether the address names a host port. -/
def isHost (address : Address) : Bool :=
  address.endpoint == 0

/-- Whether the address names a main peripheral. -/
def isMain (address : Address) : Bool :=
  address.endpoint == 0x20

/-- The expansion slot, when the address names exactly one expansion. -/
def expansionSlot? (address : Address) : Option UInt8 :=
  match address.endpoint with
  | 0x01 => some 0
  | 0x02 => some 1
  | 0x04 => some 2
  | 0x08 => some 3
  | 0x10 => some 4
  | _ => none

/-- Whether the address names a single peripheral. -/
def isPeripheral (address : Address) : Bool :=
  address.isMain || address.expansionSlot?.isSome

/-- The key peripherals are ordered by: the main one first, then expansions by
slot. -/
def attachOrder (address : Address) : Nat :=
  match address.expansionSlot? with
  | some slot => slot.toNat + 1
  | none => 0

/-- The address in two hexadecimal digits. -/
def text (address : Address) : String :=
  Text.Hex.marked 2 address.raw.toNat

end Address

end MapleBus
