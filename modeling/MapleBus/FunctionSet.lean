import MapleBus.Text.Hex

/-!
# Function sets

A device advertises its functions as a set of bits.  Its device information
carries one definition word per function, from the highest bit down, so the
place of a definition is the number of higher functions.
-/

namespace MapleBus

/-- A set of device functions, one per bit. -/
structure FunctionSet where
  bits : UInt32
  deriving DecidableEq, Repr, Inhabited

namespace FunctionSet

/-- The set with the single function of a bit position. -/
def single (position : UInt32) : FunctionSet :=
  ⟨1 <<< position⟩

def controller : FunctionSet := single 0
def storage : FunctionSet := single 1
def lcd : FunctionSet := single 2
def timer : FunctionSet := single 3
def audioInput : FunctionSet := single 4
def arGun : FunctionSet := single 5
def keyboard : FunctionSet := single 6
def gun : FunctionSet := single 7
def vibration : FunctionSet := single 8
def mouse : FunctionSet := single 9
def exMedia : FunctionSet := single 10
def camera : FunctionSet := single 11

/-- The functions with a name of their own, lowest bit first. -/
def standard : List FunctionSet :=
  [ controller, storage, lcd, timer, audioInput, arGun, keyboard, gun, vibration,
    mouse, exMedia, camera ]

/-- The bit positions of the functions in a set, in ascending order. -/
def positions (functions : FunctionSet) : List Nat :=
  (List.range 32).filter fun position => functions.bits.toNat.testBit position

/-- The functions of either set. -/
def union (first second : FunctionSet) : FunctionSet :=
  ⟨first.bits ||| second.bits⟩

/-- Whether `other` is a non-empty part of `functions`. -/
def contains (functions other : FunctionSet) : Bool :=
  other.bits != 0 && functions.bits &&& other.bits == other.bits

/-- The number of functions in a set. -/
def count (functions : FunctionSet) : Nat :=
  functions.positions.length

/-- The functions of a set above a single function.  One less than a single bit
has all the bits below it. -/
def above (functions function : FunctionSet) : FunctionSet :=
  ⟨functions.bits &&& ~~~(function.bits ||| (function.bits - 1))⟩

/-- The place of a function's definition word among those of a device that
advertises `functions`.  There is none unless `function` is a single function
of the set. -/
def definitionIndex? (functions function : FunctionSet) : Option Nat :=
  if function.count ≠ 1 ∨ !functions.contains function then
    none
  else
    some (functions.above function).count

/-- The set as a numeral of eight hexadecimal digits. -/
def text (functions : FunctionSet) : String :=
  Text.Hex.marked 8 functions.bits.toNat

end FunctionSet

end MapleBus
