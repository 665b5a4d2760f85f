import RowFilter.Datum
import RowFilter.Document.Yaml.Fault
import RowFilter.Document.Yaml.Tag
import RowFilter.Number.Binary64

/-!
# YAML scalars

The value that a scalar has under its tag.  Underscores in numbers do not
count.  A tag may be given to any scalar, so each kind of value has a reader
for all texts, which tells why a text has no such value.
-/

namespace RowFilter
namespace Yaml

/-! ## Numbers -/

/-- The integer that characters denote in a base. -/
def integerIn (base : Nat) (characters : List Char) : Except Fault Int :=
  match Numeral.read base characters with
  | .ok number => .ok number
  | .error .malformed => .error (.notInteger base (String.ofList characters))
  | .error (.tooLong digits) => .error (.integerTooLong digits)

/-- The number whose digits in base sixty are given, most significant first. -/
def sixtyInteger (digits : List Int) : Int :=
  digits.foldl (fun value digit => 60 * value + digit) 0

/-- The integer without its sign that characters denote, in the base that their start gives. -/
def unsignedInteger (characters : List Char) : Except Fault Int :=
  match characters with
  | [] => .error .emptyNumber
  | ['0'] => .ok 0
  | '0' :: 'b' :: digits => integerIn 2 digits
  | '0' :: 'x' :: digits => integerIn 16 digits
  | '0' :: _ => integerIn 8 characters
  | _ =>
      if characters.contains ':' then
        ((splitColons characters).mapM (integerIn 10)).map sixtyInteger
      else integerIn 10 characters

/-- The value of a scalar that is an integer. -/
def readInteger (content : List Char) : Except Fault Int :=
  let characters := content.filter (· ≠ '_')
  if characters = [] then .error .emptyNumber
  else
    let (negative, unsigned) := Numeral.takeSign characters
    (unsignedInteger unsigned).map fun number => if negative then -number else number

/-- The double that characters denote. -/
def floatIn (characters : List Char) : Except Fault Binary64 :=
  match Binary64.read? characters with
  | some number => .ok number
  | none => .error (.notFloat (String.ofList characters))

/--
The sum of digits in base sixty, least significant first, each times the value
of its place.  Every step is rounded to a double.
-/
def sixtyFloat (sum : Binary64) (place : Nat) : List Binary64 → Except Fault Binary64
  | [] => .ok sum
  | digit :: digits =>
      let factor := Binary64.ofNat place
      if factor.isFinite then sixtyFloat (sum.add (digit.mul factor)) (60 * place) digits
      else .error .placeTooLarge

/-- The floating-point number without its sign that characters in lower case denote. -/
def unsignedFloat (characters : List Char) : Except Fault Binary64 :=
  if characters = ".inf".toList then .ok (.infinite false)
  else if characters = ".nan".toList then .ok .nan
  else if characters.contains ':' then do
    let digits ← (splitColons characters).mapM floatIn
    sixtyFloat (.finite false 0 0) 1 digits.reverse
  else floatIn characters

/-- The value of a scalar that is a floating-point number. -/
def readFloat (content : List Char) : Except Fault Binary64 :=
  let characters := Text.lowerChars (content.filter (· ≠ '_'))
  if characters = [] then .error .emptyNumber
  else
    let (negative, unsigned) := Numeral.takeSign characters
    (unsignedFloat unsigned).map fun number => if negative then number.negate else number

/-! ## Dates -/

/-- The number that decimal digits denote. -/
def number (digits : List Char) : Nat :=
  Text.digitsValue (digits.filterMap Text.asciiDigit?)

/-- The date with the given parts, or the first part that the calendar does not have. -/
def dateOf (year month day : Nat) : Except Fault Date :=
  match Date.ofParts? year month day with
  | some date => .ok date
  | none =>
      if year = 0 then .error (.outOfCalendar "year 0 is out of range")
      else if month = 0 ∨ 12 < month then .error (.outOfCalendar "month must be in 1..12")
      else .error (.outOfCalendar "day is out of range for month")

/-- The date-time with the given parts, or the first part that no day has. -/
def dateTimeOf (date : Date) (hour minute second microsecond : Nat) : Except Fault DateTime :=
  match DateTime.ofParts? date hour minute second microsecond with
  | some moment => .ok moment
  | none =>
      if 24 ≤ hour then .error (.outOfCalendar "hour must be in 0..23")
      else if 60 ≤ minute then .error (.outOfCalendar "minute must be in 0..59")
      else .error (.outOfCalendar "second must be in 0..59")

/-- The microseconds of a fraction, of which six digits count. -/
def microseconds (fraction : List Char) : Nat :=
  number ((fraction ++ List.replicate 6 '0').take 6)

/-- The minutes by which a zone is ahead of universal time, less than a day either way. -/
def zoneOffset (zone : List Char) : Except Fault (Option Int) :=
  match dropBlanks zone with
  | [] => .ok none
  | sign :: rest =>
      let (hours, afterHours) := takeDigits rest
      let minutes : Int := 60 * number hours + number (afterHours.drop 1)
      let offset := if sign = '-' then -minutes else minutes
      if minutesOfDay ≤ offset.natAbs then .error (.zoneTooFar offset) else .ok (some offset)

/-- The value of a scalar that is a date or a date-time; the zone is looked at before the rest. -/
def readTimestamp (content : List Char) : Except Fault Datum :=
  match timestampParts? (Text.dropFinalNewline content) with
  | none => .error .notTimestamp
  | some parts =>
      let day := dateOf (number parts.year) (number parts.month) (number parts.day)
      match parts.time with
      | none => day.map .date
      | some (hour, minute, second, fraction, zone) => do
          let offset? ← zoneOffset zone
          let date ← day
          let moment ←
            dateTimeOf date (number hour) (number minute) (number second) (microseconds fraction)
          match offset? with
          | none => return .dateTime moment
          | some offset => return .zoned { moment, offset }

/-! ## All scalars -/

/-- The value of a scalar that is a truth value, in any case. -/
def readTruth (content : List Char) : Except Fault Bool :=
  let word := String.ofList (Text.lowerChars content)
  match truthWords.lookup word with
  | some truth => .ok truth
  | none => .error (.notTruth word)

/-- The value of a scalar that is octets in base 64. -/
def readOctets (content : List Char) : Except Fault (List UInt8) :=
  if content.all fun character => character.toNat < 128 then
    match Text.base64? content with
    | some octets => .ok octets
    | none => .error .malformed
  else .error .malformed

/-- The value that a scalar has under a tag. -/
def readScalar (tag : Tag) (content : List Char) : Except Fault Datum :=
  match tag with
  | .null => .ok .null
  | .bool => (readTruth content).map .bool
  | .int => (readInteger content).map .int
  | .float => (readFloat content).map .float
  | .timestamp => readTimestamp content
  | .binary => (readOctets content).map .octets
  | .text => .ok (.text (String.ofList content))
  | _ => .error .malformed

end Yaml
end RowFilter
