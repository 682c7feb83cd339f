/-!
# Hexadecimal text

Fixed-width hexadecimal numerals, as used for addresses, function codes,
checksums and dumps of frame bytes.
-/

namespace MapleBus.Text.Hex

/-- The letters available to a numeral: digits first, then six letters. -/
inductive Case where
  | lower
  | upper
  deriving DecidableEq, Repr

/-- The character of one hexadecimal digit. -/
def digit (letters : Case) (value : Nat) : Char :=
  let value := value % 16
  if value < 10 then
    Char.ofNat (48 + value)
  else
    match letters with
    | .lower => Char.ofNat (87 + value)
    | .upper => Char.ofNat (55 + value)

/-- The last `width` hexadecimal digits of `value`, zeros included. -/
def digits (letters : Case) : (width : Nat) → (value : Nat) → List Char
  | 0, _ => []
  | width + 1, value => digits letters width (value / 16) ++ [digit letters value]

/-- A byte in two digits. -/
def byte (letters : Case) (value : UInt8) : String :=
  String.ofList (digits letters 2 value.toNat)

/-- A numeral of `width` lowercase digits behind the mark `0x`. -/
def marked (width : Nat) (value : Nat) : String :=
  "0x" ++ String.ofList (digits .lower width value)

/-- Bytes in brackets, two uppercase digits each, separated by commas. -/
def dump (bytes : List UInt8) : String :=
  "[" ++ ", ".intercalate (bytes.map (byte .upper)) ++ "]"

@[simp]
theorem length_digits (letters : Case) (width value : Nat) :
    (digits letters width value).length = width := by
  induction width generalizing value with
  | zero => rfl
  | succ width ih => simp [digits, ih]

end MapleBus.Text.Hex
