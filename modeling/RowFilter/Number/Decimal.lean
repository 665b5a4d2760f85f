import RowFilter.Text.Digit

/-!
# Decimal numbers

A finite decimal keeps its sign, its digits and its exponent apart, so trailing
zeros, negative zero and the exponent of a zero survive reading and writing.
Equality of numbers is `Decimal.same`: it forgets exactly those three.
-/

namespace RowFilter

namespace Decimal

/-- The largest exponent of a leading digit. -/
def maxAdjusted : Int := 999999999999999999

/-- The smallest exponent of a last digit. -/
def minExponent : Int := -1999999999999999997

/-- The number of digits of a coefficient; zero has one. -/
def digitCount (coefficient : Nat) : Nat :=
  (Text.digitChars coefficient).length

/-- The exponent of the leading digit. -/
def adjusted (coefficient : Nat) (exponent : Int) : Int :=
  exponent + digitCount coefficient - 1

/-- The exponents of the last and of the leading digit are within the limits. -/
def InRange (coefficient : Nat) (exponent : Int) : Prop :=
  minExponent ≤ exponent ∧ adjusted coefficient exponent ≤ maxAdjusted

instance (coefficient : Nat) (exponent : Int) : Decidable (InRange coefficient exponent) :=
  inferInstanceAs (Decidable (_ ∧ _))

end Decimal

/-- A decimal number, with the values that stand for no number. -/
inductive Decimal where
  /-- The number `± coefficient · 10 ^ exponent`, whose exponents are within the limits. -/
  | finite (negative : Bool) (coefficient : Nat) (exponent : Int)
      (inRange : Decimal.InRange coefficient exponent)
  /-- One of the two infinities. -/
  | infinite (negative : Bool)
  /-- Not a number. -/
  | nan (negative : Bool)
deriving DecidableEq

namespace Decimal

/-- A decimal that stands for a number. -/
def isFinite : Decimal → Bool
  | finite .. => true
  | _ => false

/-! ## Reading -/

/-- An optional sign in front of a numeral: whether it is a minus, and the rest. -/
def takeSign : List Char → Bool × List Char
  | '-' :: rest => (true, rest)
  | '+' :: rest => (false, rest)
  | characters => (false, characters)

/-- The values of the digits at the front, and the rest. -/
def takeDigits : List Char → List Nat × List Char
  | [] => ([], [])
  | character :: rest =>
      match Text.digit? character with
      | some digit =>
          let (digits, remainder) := takeDigits rest
          (digit :: digits, remainder)
      | none => ([], character :: rest)

/-- The digits after a decimal point, if there is one, and the rest. -/
def takeFraction : List Char → List Nat × List Char
  | '.' :: rest => takeDigits rest
  | characters => ([], characters)

/-- The exponent that fills the rest of a numeral; an absent one is zero. -/
def readExponent? : List Char → Option Int
  | [] => some 0
  | mark :: rest =>
      if mark = 'e' || mark = 'E' then
        let (negative, digits) := takeSign rest
        match takeDigits digits with
        | ([], _) => none
        | (values, []) =>
            let value : Int := Text.digitsValue values
            some (if negative then -value else value)
        | _ => none
      else none

/--
The finite decimal that a text denotes: a sign, digits with at most one point
among them, and an exponent, within the limits of the exponents.
-/
def readFinite? (characters : List Char) : Option Decimal :=
  let (negative, unsigned) := takeSign characters
  let (whole, afterWhole) := takeDigits unsigned
  let (fraction, afterFraction) := takeFraction afterWhole
  if whole = [] ∧ fraction = [] then none
  else
    match readExponent? afterFraction with
    | none => none
    | some written =>
        let coefficient := Text.digitsValue (whole ++ fraction)
        let exponent := written - fraction.length
        if inRange : InRange coefficient exponent then
          some (.finite negative coefficient exponent inRange)
        else none

/-- The decimal that a text denotes, where `NaN` and `Infinity` are read too. -/
def read? (text : String) : Option Decimal :=
  let (negative, unsigned) := takeSign text.toList
  let word := unsigned.map Char.toLower
  if word = "nan".toList then some (.nan negative)
  else if word = "inf".toList ∨ word = "infinity".toList then some (.infinite negative)
  else readFinite? text.toList

/-! ## Writing -/

/-- A minus sign for the negative ones. -/
def signChars (negative : Bool) : List Char :=
  if negative then ['-'] else []

/-- The digits with a point after the first `places` of them, and zeros where it lies before. -/
def pointed (digits : List Char) (places : Int) : List Char :=
  if places ≤ 0 then '0' :: '.' :: (List.replicate places.natAbs '0' ++ digits)
  else if digits.length ≤ places.toNat then digits
  else digits.take places.toNat ++ '.' :: digits.drop places.toNat

/-- An exponent with its mark and its sign. -/
def exponentChars (exponent : Int) : List Char :=
  'E' :: (if exponent < 0 then '-' else '+') :: Text.digitChars exponent.natAbs

/--
A finite decimal without its sign: positional when the exponent is not positive
and the leading digit stands at most six places behind the point, scientific
otherwise.
-/
def unsignedChars (coefficient : Nat) (exponent : Int) : List Char :=
  let digits := Text.digitChars coefficient
  let leading := adjusted coefficient exponent
  if exponent ≤ 0 ∧ -6 ≤ leading then pointed digits (leading + 1)
  else pointed digits 1 ++ exponentChars leading

/-- The characters of a decimal. -/
def chars : Decimal → List Char
  | finite negative coefficient exponent _ =>
      signChars negative ++ unsignedChars coefficient exponent
  | infinite negative => signChars negative ++ "Infinity".toList
  | nan negative => signChars negative ++ "NaN".toList

/-- The text of a decimal. -/
def text (decimal : Decimal) : String :=
  String.ofList decimal.chars

/-! ## Comparing -/

/-- The coefficient without trailing zeros, each one moved into the exponent. -/
def stripZeros (coefficient : Nat) (exponent : Int) : Nat × Int :=
  if positive : 0 < coefficient ∧ coefficient % 10 = 0 then
    stripZeros (coefficient / 10) (exponent + 1)
  else (coefficient, exponent)
termination_by coefficient
decreasing_by omega

/-- The number zero, whatever its sign and exponent. -/
def isZero : Decimal → Bool
  | finite _ coefficient _ _ => coefficient == 0
  | _ => false

/-- Two pairs of digits and exponent, each with its sign, that stand for the same number. -/
def samePlaces (negative : Bool) (coefficient : Nat) (exponent : Int)
    (negative' : Bool) (coefficient' : Nat) (exponent' : Int) : Bool :=
  if coefficient = 0 then coefficient' == 0
  else
    negative == negative' &&
      stripZeros coefficient exponent == stripZeros coefficient' exponent'

/-- Two decimals that stand for the same number; nothing is the same as not-a-number. -/
def same : Decimal → Decimal → Bool
  | finite negative coefficient exponent _, finite negative' coefficient' exponent' _ =>
      samePlaces negative coefficient exponent negative' coefficient' exponent'
  | infinite negative, infinite negative' => negative == negative'
  | _, _ => false

/-- A decimal that stands for an integer. -/
def sameAsInt (value : Int) : Decimal → Bool
  | finite negative coefficient exponent _ =>
      samePlaces negative coefficient exponent (value < 0) value.natAbs 0
  | _ => false

end Decimal
end RowFilter
