import RowFilter.Datum
import RowFilter.Number.Integer
import RowFilter.Text.Octets

/-!
# Reading JSON

The JSON grammar, with three words more: `NaN`, `Infinity` and `-Infinity`.
Numbers without fraction and exponent are integers, all others are
floating-point numbers; there is a limit on the digits of an integer.  A key
that is given again keeps its place and takes the last value.
-/

namespace RowFilter
namespace Json

/-- Why a text is no document. -/
inductive Fault where
  /-- The text does not follow the grammar. -/
  | malformed
  /-- An integer has more digits than are read. -/
  | integerTooLong (digits : Nat)
deriving DecidableEq, Repr

/-- The message of a fault, where it has one. -/
def Fault.message? : Fault → Option String
  | malformed => none
  | integerTooLong digits => some (Numeral.tooLongMessage digits)

/-- White space between tokens. -/
def isSpace (character : Char) : Bool :=
  character = ' ' || character = '\t' || character = '\n' || character = '\r'

/-- The characters after the white space at the front. -/
def skipSpace (characters : List Char) : List Char :=
  characters.dropWhile isSpace

/-- The number that four hexadecimal digits denote. -/
def hexFour? (first second third fourth : Char) : Option Nat :=
  match [first, second, third, fourth].mapM Text.hexDigit? with
  | some digits => some (digits.foldl (fun value digit => 16 * value + digit) 0)
  | none => none

/-- The character that stands for an escape letter. -/
def escapeLetter? (letter : Char) : Option Char :=
  if letter = '"' ∨ letter = '\\' ∨ letter = '/' then some letter
  else if letter = 'b' then some '\x08'
  else if letter = 'f' then some '\x0c'
  else if letter = 'n' then some '\n'
  else if letter = 'r' then some '\r'
  else if letter = 't' then some '\t'
  else none

/--
The rest of a string after its opening quote, and what follows the closing
one.  The characters read so far stand in `done`, the last one first, and
`high` is a first half of a pair that waits for the second.
-/
def readString? (high : Option Nat) (done : List Char) :
    List Char → Option (List Char × List Char)
  | '\\' :: 'u' :: a :: b :: c :: d :: rest =>
      match hexFour? a b c d with
      | none => none
      | some unit =>
          match high with
          | some waiting =>
              if Text.isLowHalf unit then readString? none (Text.pairChar waiting unit :: done) rest
              else
                let done := Text.unitChar waiting :: done
                if Text.isHighHalf unit then readString? (some unit) done rest
                else readString? none (Text.unitChar unit :: done) rest
          | none =>
              if Text.isHighHalf unit then readString? (some unit) done rest
              else readString? none (Text.unitChar unit :: done) rest
  | character :: rest =>
      let done :=
        match high with
        | some waiting => Text.unitChar waiting :: done
        | none => done
      if character = '"' then some (done.reverse, rest)
      else if character = '\\' then
        match rest with
        | letter :: rest =>
            match escapeLetter? letter with
            | some escaped => readString? none (escaped :: done) rest
            | none => none
        | [] => none
      else if character.toNat < 32 then none
      else readString? none (character :: done) rest
  | [] => none

/-- The ASCII digits at the front, and the rest. -/
def takeDigits (characters : List Char) : List Char × List Char :=
  (characters.takeWhile Char.isDigit, characters.dropWhile Char.isDigit)

/-- The number that ASCII digits denote. -/
def digitsNumber (digits : List Char) : Nat :=
  Text.digitsValue (digits.map fun digit => digit.toNat - 48)

/-- The digits before the point: a zero alone, or digits that start with none. -/
def takeWhole? : List Char → Option (List Char × List Char)
  | '0' :: rest => some (['0'], rest)
  | characters =>
      match takeDigits characters with
      | ([], _) => none
      | taken => some taken

/-- The digits after a point, where there are some, and the rest. -/
def takeFraction : List Char → List Char × List Char
  | '.' :: rest =>
      match takeDigits rest with
      | ([], _) => ([], '.' :: rest)
      | taken => taken
  | characters => ([], characters)

/-- An exponent, where there is one, and the rest. -/
def takeExponent (characters : List Char) : Option Int × List Char :=
  match characters with
  | mark :: rest =>
      if mark = 'e' ∨ mark = 'E' then
        let (negative, digits) :=
          match rest with
          | '-' :: digits => (true, digits)
          | '+' :: digits => (false, digits)
          | digits => (false, digits)
        match takeDigits digits with
        | ([], _) => (none, characters)
        | (taken, remainder) =>
            let value : Int := digitsNumber taken
            (some (if negative then -value else value), remainder)
      else (none, characters)
  | [] => (none, [])

/-- The number without a sign at the front, and the rest. -/
def readNumber (negative : Bool) (characters : List Char) : Except Fault (Datum × List Char) :=
  match takeWhole? characters with
  | none => .error .malformed
  | some (whole, afterWhole) =>
      let (fraction, afterFraction) := takeFraction afterWhole
      let (exponent?, rest) := takeExponent afterFraction
      if fraction = [] ∧ exponent? = none then
        if digitLimit < whole.length then .error (.integerTooLong whole.length)
        else
          let value : Int := digitsNumber whole
          .ok (.int (if negative then -value else value), rest)
      else
        let exponent := exponent?.getD 0 - fraction.length
        .ok (.float (.ofDecimal negative (digitsNumber (whole ++ fraction)) exponent), rest)

/-- The rest after a word at the front, if it is there. -/
def dropWord? : List Char → List Char → Option (List Char)
  | [], rest => some rest
  | expected :: word, character :: rest =>
      if character = expected then dropWord? word rest else none
  | _ :: _, [] => none

/-- The words that stand for values. -/
def words : List (List Char × Datum) :=
  [("null".toList, .null), ("true".toList, .bool true), ("false".toList, .bool false),
    ("NaN".toList, .float .nan), ("Infinity".toList, .float (.infinite false)),
    ("-Infinity".toList, .float (.infinite true))]

/-- The word at the front, and the rest. -/
def readWord? (characters : List Char) : Option (Datum × List Char) :=
  words.findSome? fun word =>
    (dropWord? word.1 characters).map fun rest => (word.2, rest)

/-- What has no value is malformed. -/
def orMalformed : Option α → Except Fault α
  | some value => .ok value
  | none => .error .malformed

mutual

/-- The value at the front, and the rest; every nested value takes some of the fuel. -/
def readValue : Nat → List Char → Except Fault (Datum × List Char)
  | 0, _ => .error .malformed
  | fuel + 1, characters =>
      match characters with
      | '"' :: rest => do
          let (content, rest) ← orMalformed (readString? none [] rest)
          return (.text (String.ofList content), rest)
      | '[' :: rest =>
          match skipSpace rest with
          | ']' :: rest => .ok (.list [], rest)
          | rest => do
              let (items, rest) ← readItems fuel rest
              return (.list items, rest)
      | '\x7b' :: rest =>
          match skipSpace rest with
          | '\x7d' :: rest => .ok (.map [], rest)
          | rest => do
              let (entries, rest) ← readEntries fuel rest
              return (.ofEntries entries, rest)
      | characters =>
          match readWord? characters with
          | some found => .ok found
          | none =>
              match characters with
              | '-' :: rest => readNumber true rest
              | characters => readNumber false characters

/-- The values up to the closing bracket, and the rest. -/
def readItems : Nat → List Char → Except Fault (List Datum × List Char)
  | 0, _ => .error .malformed
  | fuel + 1, characters => do
      let (item, rest) ← readValue fuel (skipSpace characters)
      match skipSpace rest with
      | ']' :: rest => return ([item], rest)
      | ',' :: rest =>
          let (items, rest) ← readItems fuel rest
          return (item :: items, rest)
      | _ => .error .malformed

/-- The entries up to the closing brace, and the rest. -/
def readEntries : Nat → List Char → Except Fault (List (Datum × Datum) × List Char)
  | 0, _ => .error .malformed
  | fuel + 1, characters => do
      match skipSpace characters with
      | '"' :: rest =>
          let (key, rest) ← orMalformed (readString? none [] rest)
          match skipSpace rest with
          | ':' :: rest =>
              let (value, rest) ← readValue fuel (skipSpace rest)
              let entry := (Datum.text (String.ofList key), value)
              match skipSpace rest with
              | '\x7d' :: rest => return ([entry], rest)
              | ',' :: rest =>
                  let (entries, rest) ← readEntries fuel rest
                  return (entry :: entries, rest)
              | _ => .error .malformed
          | _ => .error .malformed
      | _ => .error .malformed

end

/-- The value that a text denotes; nothing but white space may stand around it. -/
def read (text : String) : Except Fault Datum := do
  let characters := text.toList
  let (value, rest) ← readValue (characters.length + 1) (skipSpace characters)
  if (skipSpace rest).isEmpty then return value else .error .malformed

end Json
end RowFilter
