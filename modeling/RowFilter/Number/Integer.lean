import RowFilter.Text.Split
import RowFilter.Text.Digit

/-!
# Reading integers

An integer in a base of at most sixteen may have blanks around it, a sign, and
the mark of its base.  Decimal digits of any script count.  Where the base is
no power of two there is a limit on the number of digits.
-/

namespace RowFilter

/-- The number of digits beyond which an integer is neither read nor written. -/
def digitLimit : Nat := 4300

namespace Numeral

/-- Why a text is no integer. -/
inductive Fault where
  /-- The text does not have the form of an integer. -/
  | malformed
  /-- The integer has more digits than are read. -/
  | tooLong (digits : Nat)
deriving DecidableEq, Repr

/-- A character that may stand around a number. -/
def isSpace (character : Char) : Bool :=
  Text.isBlank character && !(0x1C ≤ character.toNat && character.toNat ≤ 0x1F)

/-- The characters without the blanks around them. -/
def trim (characters : List Char) : List Char :=
  ((characters.dropWhile isSpace).reverse.dropWhile isSpace).reverse

/-- A sign in front of a number: whether it is a minus, and the rest. -/
def takeSign : List Char → Bool × List Char
  | '-' :: rest => (true, rest)
  | '+' :: rest => (false, rest)
  | rest => (false, rest)

/-- The value of a digit in a base. -/
def digitIn? (base : Nat) (character : Char) : Option Nat :=
  let value? :=
    match Text.digit? character with
    | some value => some value
    | none => Text.hexDigit? character
  value?.filter (· < base)

/-- The digits after the mark of their base, which may be missing. -/
def dropMark (base : Nat) : List Char → List Char
  | '0' :: mark :: rest =>
      if (base = 16 ∧ (mark = 'x' ∨ mark = 'X')) ∨ (base = 8 ∧ (mark = 'o' ∨ mark = 'O')) ∨
          (base = 2 ∧ (mark = 'b' ∨ mark = 'B')) then rest
      else '0' :: mark :: rest
  | characters => characters

/-- A base in which integers of any length are read. -/
def isUnlimited (base : Nat) : Bool :=
  base = 2 || base = 8 || base = 16

/-- The integer that characters denote in a base; the limit comes before what follows the digits. -/
def read (base : Nat) (characters : List Char) : Except Fault Int :=
  let (negative, unsigned) := takeSign (trim characters)
  let unmarked := dropMark base unsigned
  let taken := unmarked.takeWhile fun character => (digitIn? base character).isSome
  if digitLimit < taken.length && !isUnlimited base then .error (.tooLong taken.length)
  else if taken = [] || taken.length ≠ unmarked.length then .error .malformed
  else
    let magnitude : Nat :=
      (taken.filterMap (digitIn? base)).foldl (fun value digit => base * value + digit) 0
    .ok (if negative then -(magnitude : Int) else magnitude)

/-- An integer that has no more digits than are written. -/
def isWritable (number : Int) : Bool :=
  number.natAbs < Nat.pow 10 digitLimit

/-- What is said of an integer with more digits than the limit; `count` tells how many. -/
def limitMessage (count : String) : String :=
  "Exceeds the limit (" ++ Text.natText digitLimit ++ " digits) for integer string conversion" ++
    count ++ "; use sys.set_int_max_str_digits() to increase the limit"

/-- The message of an integer with more digits than are read. -/
def tooLongMessage (digits : Nat) : String :=
  limitMessage (": value has " ++ Text.natText digits ++ " digits")

/-- The message of an integer with more digits than are written. -/
def unwritableMessage : String :=
  limitMessage ""

end Numeral
end RowFilter
