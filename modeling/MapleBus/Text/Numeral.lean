/-!
# Decimal numerals

Natural numbers in ASCII digits.
-/

namespace MapleBus.Text.Numeral

/-- Whether a character is an ASCII digit. -/
def isDigit (character : Char) : Bool :=
  '0' ≤ character && character ≤ '9'

/-- The number that digits denote, most significant first. -/
def value (digits : List Char) : Nat :=
  digits.foldl (fun number digit => number * 10 + (digit.toNat - '0'.toNat)) 0

/-- The number that one or more digits denote. -/
def read? (characters : List Char) : Option Nat :=
  if characters ≠ [] ∧ characters.all isDigit then some (value characters) else none

/-- The number that one or more digits denote, which a single plus sign may
precede. -/
def readSigned? (characters : List Char) : Option Nat :=
  match characters with
  | '+' :: digits => read? digits
  | digits => read? digits

end MapleBus.Text.Numeral
