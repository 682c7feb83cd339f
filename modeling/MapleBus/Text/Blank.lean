/-!
# White space

The characters with the Unicode property White_Space, and text without them at
either end.
-/

namespace MapleBus.Text

/-- The ranges of code points with the property White_Space, both ends
included. -/
def blankRanges : List (Nat × Nat) :=
  [ (0x0009, 0x000D), (0x0020, 0x0020), (0x0085, 0x0085), (0x00A0, 0x00A0),
    (0x1680, 0x1680), (0x2000, 0x200A), (0x2028, 0x2029), (0x202F, 0x202F),
    (0x205F, 0x205F), (0x3000, 0x3000) ]

/-- Whether a character is white space. -/
def isBlank (character : Char) : Bool :=
  blankRanges.any fun (low, high) =>
    low ≤ character.toNat && character.toNat ≤ high

/-- The characters of a text between the white space at its ends. -/
def trimmed (text : String) : List Char :=
  ((text.toList.dropWhile isBlank).reverse.dropWhile isBlank).reverse

end MapleBus.Text
