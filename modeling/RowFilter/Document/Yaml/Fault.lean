import RowFilter.Calendar.DateTime
import RowFilter.Number.Integer

/-!
# Faults of YAML documents

Why a text is no document.  Whatever breaks the grammar, or does not fit the
plain data that a document holds, is malformed; a scalar whose tag promises
more than its characters keep has a fault of its own.
-/

namespace RowFilter
namespace Yaml

/-- Why a text is no document. -/
inductive Fault where
  /-- The text does not follow the grammar, or holds what plain data cannot. -/
  | malformed
  /-- An escape gives the code of no character. -/
  | noCharacter
  /-- An escape gives a code beyond thirty-one bits. -/
  | codeTooLarge
  /-- A word stands for no truth value. -/
  | notTruth (word : String)
  /-- A number has no characters at all. -/
  | emptyNumber
  /-- A text is no integer in its base. -/
  | notInteger (base : Nat) (numeral : String)
  /-- An integer has more digits than are read. -/
  | integerTooLong (digits : Nat)
  /-- A text is no floating-point number. -/
  | notFloat (numeral : String)
  /-- A place of a floating-point number in base sixty counts more than any double. -/
  | placeTooLarge
  /-- A text is no date and no date-time. -/
  | notTimestamp
  /-- A mapping stands where a date or a date-time is announced. -/
  | timestampOfMapping
  /-- A zone is a day or more away from universal time. -/
  | zoneTooFar (minutes : Int)
  /-- A date or a time that the calendar does not have. -/
  | outOfCalendar (reason : String)
deriving DecidableEq, Repr

namespace Fault

/-- The number of characters that are shown of a text that is no integer. -/
def shownWidth : Nat := 200

/-- The message of a fault, where it has one. -/
def message? : Fault → Option String
  | malformed => none
  | noCharacter => some "chr() arg not in range(0x110000)"
  | codeTooLarge => some "Python int too large to convert to C int"
  | notTruth word => some (Text.quoted word)
  | emptyNumber => some "string index out of range"
  | notInteger base numeral =>
      some ("invalid literal for int() with base " ++ Text.natText base ++ ": " ++
        String.ofList ((Text.quoted numeral).toList.take shownWidth))
  | integerTooLong digits => some (Numeral.tooLongMessage digits)
  | notFloat numeral => some ("could not convert string to float: " ++ Text.quoted numeral)
  | placeTooLarge => some "int too large to convert to float"
  | notTimestamp => none
  | timestampOfMapping => none
  | zoneTooFar minutes =>
      some ("offset must be a timedelta strictly between -timedelta(hours=24) and " ++
        "timedelta(hours=24), not " ++ quotedSpan minutes ++ ".")
  | outOfCalendar reason => some reason

end Fault

/-- What has no value is malformed. -/
def orMalformed : Option α → Except Fault α
  | some value => .ok value
  | none => .error .malformed

end Yaml
end RowFilter
