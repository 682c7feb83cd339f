import MapleBus.Address

/-!
# Players

A player occupies one of the console's slots and holds one input device,
identified by the address and interface it has on the side of the input host.
-/

namespace MapleBus.Device

/-- The input device behind a player. -/
structure InputDevice where
  address : UInt8 := 0
  interface : UInt8 := 0
  deriving DecidableEq, Repr, Inhabited

/-- A player slot and the input device behind it. -/
structure Player where
  index : UInt8 := 0
  input : InputDevice := {}
  deriving DecidableEq, Repr, Inhabited

namespace Player

/-- The host port of the player's bus. -/
def hostAddress (player : Player) : Address :=
  Address.host player.index

/-- The main peripheral of the player's bus. -/
def mainAddress (player : Player) : Address :=
  Address.main player.index

/-- An expansion on the player's bus. -/
def expansionAddress? (player : Player) (slot : UInt8) : Option Address :=
  Address.expansion? player.index slot

end Player

end MapleBus.Device
