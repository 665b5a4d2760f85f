import RowFilter.Number.Integer
import RowFilter.Text.Case
import RowFilter.Text.Digit

/-!
# Binary floating-point numbers

Double-precision numbers by their exact value, a mantissa times a power of two.
Reading rounds to the nearest, ties to the even mantissa.  Writing takes the
fewest digits that read back, the nearest of those, and puts them positionally
for exponents from -4 to 15.

Sums and products are the exact ones, rounded once.  `exceeds` compares what
doubles stand for.

A text of a double may have blanks around it and a sign.  It is a word for
infinity or for not-a-number, or decimal digits with a point anywhere among
them and an exponent after them.  Decimal digits of any script count.
-/

namespace RowFilter

/-- A double-precision number. -/
inductive Binary64 where
  /-- The number `± mantissa · 2 ^ exponent`. -/
  | finite (negative : Bool) (mantissa : Nat) (exponent : Int)
  /-- One of the two infinities. -/
  | infinite (negative : Bool)
  /-- Not a number. -/
  | nan
deriving DecidableEq, Repr, Inhabited

namespace Binary64

/-- A quotient rounded to the nearest integer, ties to the even one. -/
def roundQuotient (numerator denominator : Nat) : Nat :=
  let quotient := numerator / denominator
  let twice := 2 * (numerator % denominator)
  if denominator < twice then quotient + 1
  else if twice = denominator && quotient % 2 = 1 then quotient + 1
  else quotient

/-- Numerator and denominator of `value · base ^ exponent`. -/
def scaled (value base : Nat) (exponent : Int) : Nat × Nat :=
  let power := Nat.pow base exponent.natAbs
  if exponent < 0 then (value, power) else (value * power, 1)

/-- The exponent of the leading binary digit of a positive quotient. -/
def binaryMagnitude (numerator denominator : Nat) : Int :=
  let guess : Int := (Nat.log2 numerator : Int) - Nat.log2 denominator
  let (least, factor) := scaled denominator 2 guess
  if numerator * factor < least then guess - 1 else guess

/-- The double nearest to a quotient, `negative` giving its sign. -/
def ofQuotient (negative : Bool) (numerator denominator : Nat) : Binary64 :=
  if numerator = 0 then .finite negative 0 0
  else
    let exponent := max (binaryMagnitude numerator denominator - 52) (-1074)
    let (top, bottom) :=
      if exponent < 0 then (numerator * Nat.pow 2 exponent.natAbs, denominator)
      else (numerator, denominator * Nat.pow 2 exponent.natAbs)
    let mantissa := roundQuotient top bottom
    let (mantissa, exponent) :=
      if mantissa = Nat.pow 2 53 then (Nat.pow 2 52, exponent + 1) else (mantissa, exponent)
    if 971 < exponent then .infinite negative else .finite negative mantissa exponent

/--
The double nearest to `± coefficient · 10 ^ exponent`.  A leading digit far
beyond the range of doubles decides the answer without the arithmetic.
-/
def ofDecimal (negative : Bool) (coefficient : Nat) (exponent : Int) : Binary64 :=
  let leading := exponent + (Text.digitChars coefficient).length
  if coefficient = 0 ∨ leading < -400 then .finite negative 0 0
  else if 400 < leading then .infinite negative
  else
    let (numerator, denominator) := scaled coefficient 10 exponent
    ofQuotient negative numerator denominator

/-- The exponent of the leading decimal digit of a positive quotient. -/
def decimalMagnitude (numerator denominator : Nat) : Int :=
  if denominator ≤ numerator then
    ((Text.digitChars (numerator / denominator)).length : Int) - 1
  else
    let places := (Text.digitChars (denominator / numerator)).length
    if numerator * Nat.pow 10 (places - 1) = denominator then 1 - (places : Int) else -places

/--
The first number of digits, counted up from `count`, at which a neighbour of
the value on the decimal grid reads back as the value: its digits and the
exponent of its last one.  Of two such neighbours the nearer wins.
-/
def shortestFrom (mantissa : Nat) (exponent : Int) (numerator denominator : Nat)
    (magnitude : Int) (count : Nat) : Nat → Nat × Int
  | 0 => (numerator, 0)
  | fuel + 1 =>
      let last := magnitude - count + 1
      let (top, bottom) :=
        if last < 0 then (numerator * Nat.pow 10 last.natAbs, denominator)
        else (numerator, denominator * Nat.pow 10 last.natAbs)
      let below := top / bottom
      let readsBack (digits : Nat) : Bool :=
        ofDecimal false digits last == .finite false mantissa exponent
      let nearer := roundQuotient top bottom
      let farther := if nearer = below then below + 1 else below
      if readsBack nearer then (nearer, last)
      else if readsBack farther then (farther, last)
      else shortestFrom mantissa exponent numerator denominator magnitude (count + 1) fuel

/-- The shortest digits of a positive double and the exponent of the last one. -/
def shortest (mantissa : Nat) (exponent : Int) : Nat × Int :=
  let (numerator, denominator) := scaled mantissa 2 exponent
  shortestFrom mantissa exponent numerator denominator
    (decimalMagnitude numerator denominator) 1 17

/-- Digits without the zeros at their end. -/
def trimZeros (digits : List Char) : List Char :=
  (digits.reverse.dropWhile (· = '0')).reverse

/-- The text of a positive double from its digits and the exponent of the first one. -/
def digitsText (digits : List Char) (leading : Int) : List Char :=
  if -4 ≤ leading ∧ leading < 16 then
    if leading < 0 then
      '0' :: '.' :: (List.replicate (leading.natAbs - 1) '0' ++ digits)
    else
      let whole := leading.toNat + 1
      let fraction := digits.drop whole
      digits.take whole ++ List.replicate (whole - digits.length) '0' ++
        '.' :: (if fraction = [] then ['0'] else fraction)
  else
    let fraction := digits.drop 1
    digits.take 1 ++ (if fraction = [] then [] else '.' :: fraction) ++
      'e' :: (if leading < 0 then '-' else '+') :: Text.paddedDigits 2 leading.natAbs

/-- The text of a double. -/
def text : Binary64 → String
  | nan => "nan"
  | infinite negative => if negative then "-inf" else "inf"
  | finite negative mantissa exponent =>
      let sign := if negative then ['-'] else []
      if mantissa = 0 then String.ofList (sign ++ "0.0".toList)
      else
        let (value, last) := shortest mantissa exponent
        let digits := Text.digitChars value
        String.ofList (sign ++ digitsText (trimZeros digits) (last + digits.length - 1))

/-- The number zero, of either sign. -/
def isZero : Binary64 → Bool
  | finite _ mantissa _ => mantissa == 0
  | _ => false

/-- Two doubles that stand for the same number; nothing is the same as not-a-number. -/
def same : Binary64 → Binary64 → Bool
  | finite negative mantissa exponent, finite negative' mantissa' exponent' =>
      if mantissa = 0 then mantissa' == 0
      else negative == negative' && mantissa == mantissa' && exponent == exponent'
  | infinite negative, infinite negative' => negative == negative'
  | _, _ => false

/-- A double that stands for the given integer. -/
def sameAsInt (value : Int) : Binary64 → Bool
  | finite negative mantissa exponent =>
      let (numerator, denominator) := scaled mantissa 2 exponent
      numerator == value.natAbs * denominator &&
        (mantissa == 0 || negative == decide (value < 0))
  | _ => false

/-! ## Arithmetic -/

/-- The double nearest to a natural number. -/
def ofNat (value : Nat) : Binary64 :=
  ofQuotient false value 1

/-- The same number with the other sign. -/
def negate : Binary64 → Binary64
  | finite negative mantissa exponent => .finite (!negative) mantissa exponent
  | infinite negative => .infinite (!negative)
  | nan => .nan

/-- A double below zero, or a zero with a minus sign. -/
def isNegative : Binary64 → Bool
  | finite negative _ _ => negative
  | infinite negative => negative
  | nan => false

/-- A double that is a number. -/
def isFinite : Binary64 → Bool
  | finite .. => true
  | _ => false

/-- The finite double `± mantissa · 2 ^ exponent` as a whole number of the given finer units. -/
def units (negative : Bool) (mantissa : Nat) (exponent unit : Int) : Int :=
  let magnitude : Int := mantissa * Nat.pow 2 (exponent - unit).toNat
  if negative then -magnitude else magnitude

/-- The double nearest to `value · 2 ^ unit`. -/
def ofUnits (value unit : Int) : Binary64 :=
  let (numerator, denominator) := scaled value.natAbs 2 unit
  ofQuotient (value < 0) numerator denominator

/-- The product of two doubles. -/
def mul (left right : Binary64) : Binary64 :=
  let negative := left.isNegative != right.isNegative
  match left, right with
  | finite _ mantissa exponent, finite _ mantissa' exponent' =>
      let (numerator, denominator) := scaled (mantissa * mantissa') 2 (exponent + exponent')
      ofQuotient negative numerator denominator
  | nan, _ | _, nan => .nan
  | left, right => if left.isZero || right.isZero then .nan else .infinite negative

/-- The sum of two doubles; a sum of zero has a minus sign only where both have one. -/
def add (left right : Binary64) : Binary64 :=
  match left, right with
  | finite negative mantissa exponent, finite negative' mantissa' exponent' =>
      let unit := min exponent exponent'
      let sum := units negative mantissa exponent unit + units negative' mantissa' exponent' unit
      if sum = 0 then .finite (negative && negative') 0 0 else ofUnits sum unit
  | nan, _ | _, nan => .nan
  | infinite negative, infinite negative' =>
      if negative = negative' then .infinite negative else .nan
  | infinite negative, _ | _, infinite negative => .infinite negative

/-- The first double stands for a greater number than the second. -/
def exceeds (left right : Binary64) : Bool :=
  match left, right with
  | nan, _ | _, nan => false
  | infinite negative, right => !negative && right != .infinite false
  | left, infinite negative => negative && left != .infinite true
  | finite negative mantissa exponent, finite negative' mantissa' exponent' =>
      let unit := min exponent exponent'
      units negative' mantissa' exponent' unit < units negative mantissa exponent unit

/-- A double stands for a greater number than an integer. -/
def exceedsInt (value : Int) : Binary64 → Bool
  | nan => false
  | infinite negative => !negative
  | finite negative mantissa exponent =>
      let unit := min exponent 0
      value * Nat.pow 2 unit.natAbs < units negative mantissa exponent unit

/-- A double stands for a smaller number than an integer. -/
def belowInt (value : Int) : Binary64 → Bool
  | nan => false
  | infinite negative => negative
  | finite negative mantissa exponent =>
      let unit := min exponent 0
      units negative mantissa exponent unit < value * Nat.pow 2 unit.natAbs

/-! ## Reading texts -/

/-- The values of the decimal digits at the front, and the rest. -/
def takeDigits (characters : List Char) : List Nat × List Char :=
  let taken := characters.takeWhile Text.isDigit
  (taken.filterMap Text.digit?, characters.drop taken.length)

/-- The exponent that characters denote, with a mark and a sign; nothing at all stands for zero. -/
def readExponent? : List Char → Option Int
  | [] => some 0
  | mark :: rest =>
      if mark = 'e' ∨ mark = 'E' then
        let (negative, unsigned) := Numeral.takeSign rest
        match takeDigits unsigned with
        | (digit :: digits, []) =>
            let value : Int := Text.digitsValue (digit :: digits)
            some (if negative then -value else value)
        | _ => none
      else none

/-- The double that digits, a point and an exponent denote, with `negative` as its sign. -/
def readDecimal? (negative : Bool) (characters : List Char) : Option Binary64 :=
  let (whole, afterWhole) := takeDigits characters
  let (fraction, rest) :=
    match afterWhole with
    | '.' :: afterPoint => takeDigits afterPoint
    | rest => ([], rest)
  if whole = [] ∧ fraction = [] then none
  else
    (readExponent? rest).map fun exponent =>
      .ofDecimal negative (Text.digitsValue (whole ++ fraction)) (exponent - fraction.length)

/-- The words for infinity. -/
def infinityWords : List String :=
  ["inf", "infinity"]

/-- The double that characters denote. -/
def read? (characters : List Char) : Option Binary64 :=
  let (negative, unsigned) := Numeral.takeSign (Numeral.trim characters)
  let word := Text.lower (String.ofList unsigned)
  if infinityWords.contains word then some (.infinite negative)
  else if word = "nan" then some .nan
  else readDecimal? negative unsigned

end Binary64
end RowFilter
