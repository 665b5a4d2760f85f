/-!
# Decimal digits

Every script with its own decimal digits has ten of them in a row, so a digit
is told by the zero that it belongs to.
-/

namespace RowFilter
namespace Text

/-- The code points of the digits zero of all scripts but the ASCII one. -/
def digitZeros : List Nat :=
  [
    0x660, 0x6F0, 0x7C0, 0x966, 0x9E6, 0xA66, 0xAE6, 0xB66, 0xBE6, 0xC66, 0xCE6, 0xD66, 0xDE6,
    0xE50, 0xED0, 0xF20, 0x1040, 0x1090, 0x17E0, 0x1810, 0x1946, 0x19D0, 0x1A80, 0x1A90, 0x1B50,
    0x1BB0, 0x1C40, 0x1C50, 0xA620, 0xA8D0, 0xA900, 0xA9D0, 0xA9F0, 0xAA50, 0xABF0, 0xFF10,
    0x104A0, 0x10D30, 0x11066, 0x110F0, 0x11136, 0x111D0, 0x112F0, 0x11450, 0x114D0, 0x11650,
    0x116C0, 0x11730, 0x118E0, 0x11950, 0x11C50, 0x11D50, 0x11DA0, 0x16A60, 0x16AC0, 0x16B50,
    0x1D7CE, 0x1D7D8, 0x1D7E2, 0x1D7EC, 0x1D7F6, 0x1E140, 0x1E2F0, 0x1E950, 0x1FBF0
  ]

/-- The value of an ASCII decimal digit. -/
def asciiDigit? (character : Char) : Option Nat :=
  if character.isDigit then some (character.toNat - 48) else none

/-- The value of a hexadecimal digit. -/
def hexDigit? (character : Char) : Option Nat :=
  if character.isDigit then some (character.toNat - 48)
  else if 'a' ≤ character ∧ character ≤ 'f' then some (character.toNat - 87)
  else if 'A' ≤ character ∧ character ≤ 'F' then some (character.toNat - 55)
  else none

/-- The value of a decimal digit of any script. -/
def digit? (character : Char) : Option Nat :=
  let code := character.toNat
  if code < 128 then asciiDigit? character
  else
    (digitZeros.find? fun first => first ≤ code && code ≤ first + 9).map
      fun first => code - first

/-- A decimal digit of any script. -/
def isDigit (character : Char) : Bool :=
  (digit? character).isSome

/-- The number that a sequence of digit values denotes, most significant first. -/
def digitsValue (digits : List Nat) : Nat :=
  digits.foldl (fun value digit => 10 * value + digit) 0

/-- The decimal digits of a number, without leading zeros; zero has one digit. -/
def digitChars (value : Nat) : List Char :=
  Nat.toDigits 10 value

/-- The decimal digits of a number, filled up with zeros to at least `width` places. -/
def paddedDigits (width value : Nat) : List Char :=
  let digits := digitChars value
  List.replicate (width - digits.length) '0' ++ digits

/-- A number in decimal. -/
def natText (value : Nat) : String :=
  String.ofList (digitChars value)

/-- The characters of an integer in decimal, a minus sign in front of the negative ones. -/
def intChars (value : Int) : List Char :=
  if value < 0 then '-' :: digitChars value.natAbs else digitChars value.natAbs

/-- An integer in decimal. -/
def intText (value : Int) : String :=
  String.ofList (intChars value)

end Text
end RowFilter
