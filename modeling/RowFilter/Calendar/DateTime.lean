import RowFilter.Calendar.Date
import RowFilter.Text.Quoted

/-!
# Date-times

A local date-time is a date with a time of day down to the microsecond.  With
its distance from universal time it stands for an instant, and two of those are
the same when their instants are, whatever their zones.

In messages a date, a date-time and a span of time are shown as a name with
their parts in parentheses, so that a reader sees which of them it is.
-/

namespace RowFilter

/-! ## Local date-times -/

/-- A date with a time of day. -/
structure DateTime where
  /-- The day. -/
  date : Date
  /-- The hour, below 24. -/
  hour : Nat
  /-- The minute, below 60. -/
  minute : Nat
  /-- The second, below 60. -/
  second : Nat
  /-- The microsecond, below a million. -/
  microsecond : Nat
  /-- The time is one of a day. -/
  exists_time : hour < 24 ∧ minute < 60 ∧ second < 60 ∧ microsecond < 1000000
deriving DecidableEq

namespace DateTime

/-- The date-time with the given parts, if the day has that time. -/
def ofParts? (date : Date) (hour minute second microsecond : Nat) : Option DateTime :=
  if exists_time : hour < 24 ∧ minute < 60 ∧ second < 60 ∧ microsecond < 1000000 then
    some { date, hour, minute, second, microsecond, exists_time }
  else none

/-- The first moment of a day. -/
def midnight (date : Date) : DateTime where
  date := date
  hour := 0
  minute := 0
  second := 0
  microsecond := 0
  exists_time := by decide

/-- The time of day, the microseconds only where there are some. -/
def timeChars (moment : DateTime) : List Char :=
  Text.paddedDigits 2 moment.hour ++ ':' :: (Text.paddedDigits 2 moment.minute ++
    ':' :: (Text.paddedDigits 2 moment.second ++
      if moment.microsecond = 0 then [] else '.' :: Text.paddedDigits 6 moment.microsecond))

/-- Date and time of day with a separator between them. -/
def charsWith (separator : Char) (moment : DateTime) : List Char :=
  moment.date.chars ++ separator :: moment.timeChars

/-- A date-time as `YYYY-MM-DDThh:mm:ss`, with six decimals only where there are microseconds. -/
def text (moment : DateTime) : String :=
  String.ofList (moment.charsWith 'T')

/-- A date-time with a blank between the date and the time of day. -/
def spacedText (moment : DateTime) : String :=
  String.ofList (moment.charsWith ' ')

/-! ### Reading

A digit of any script is taken for each digit of the year and for the second
digit of a day in the tens and twenties, of an hour before twenty, of a minute
and of a second; every other digit has to be an ASCII one. -/

/-- Two digits whose value the first, an ASCII digit, has to allow. -/
def readPair? (wideAfter : Nat → Bool) (tens ones : Char) : Option Nat :=
  match Text.asciiDigit? tens with
  | none => none
  | some high =>
      let low? := if wideAfter high then Text.digit? ones else Text.asciiDigit? ones
      low?.map fun low => 10 * high + low

/-- Four digits of any script. -/
def readYear? (y₁ y₂ y₃ y₄ : Char) : Option Nat :=
  match Text.digit? y₁, Text.digit? y₂, Text.digit? y₃, Text.digit? y₄ with
  | some d₁, some d₂, some d₃, some d₄ => some (1000 * d₁ + 100 * d₂ + 10 * d₃ + d₄)
  | _, _, _, _ => none

/-- A fraction of one to six digits, in millionths. -/
def readFraction? (digits : List Char) : Option Nat :=
  if digits.length = 0 ∨ 6 < digits.length then none
  else
    (digits.mapM Text.asciiDigit?).map fun values =>
      Text.digitsValue values * Nat.pow 10 (6 - digits.length)

/-- What may follow the minutes: seconds, and a fraction after them. -/
def readSeconds? : List Char → Option (Nat × Nat)
  | [] => some (0, 0)
  | [':', s₁, s₂] => (readPair? (· < 6) s₁ s₂).map fun second => (second, 0)
  | ':' :: s₁ :: s₂ :: '.' :: fraction =>
      match readPair? (· < 6) s₁ s₂, readFraction? fraction with
      | some second, some microsecond => some (second, microsecond)
      | _, _ => none
  | _ => none

/-- The date-time written as `YYYY-MM-DDThh:mm`, with seconds and a fraction if wanted. -/
def read? : List Char → Option DateTime
  | y₁ :: y₂ :: y₃ :: y₄ :: '-' :: m₁ :: m₂ :: '-' :: d₁ :: d₂ :: 'T' ::
      h₁ :: h₂ :: ':' :: n₁ :: n₂ :: rest => do
      let year ← readYear? y₁ y₂ y₃ y₄
      let month ← readPair? (fun _ => false) m₁ m₂
      let day ← readPair? (fun high => high == 1 || high == 2) d₁ d₂
      let hour ← readPair? (· < 2) h₁ h₂
      let minute ← readPair? (· < 6) n₁ n₂
      let (second, microsecond) ← readSeconds? rest
      let date ← Date.ofParts? year month day
      ofParts? date hour minute second microsecond
  | _ => none

end DateTime

/-! ## Date-times with a zone -/

/-- The number of minutes of a day. -/
def minutesOfDay : Nat := 1440

/-- A date-time with its distance from universal time. -/
structure ZonedDateTime where
  /-- The local date-time. -/
  moment : DateTime
  /-- The minutes by which the local time is ahead of universal time. -/
  offset : Int
deriving DecidableEq

/-- The number of days before the first of January of a year. -/
def daysBeforeYear (year : Nat) : Nat :=
  let past := year - 1
  365 * past + past / 4 - past / 100 + past / 400

/-- The number of days of a year before the first of a month. -/
def daysBeforeMonth (year month : Nat) : Nat :=
  (List.range (month - 1)).foldl (fun days past => days + daysInMonth year (past + 1)) 0

/-- The number of a day, counted from the first day of the calendar. -/
def Date.number (date : Date) : Nat :=
  daysBeforeYear date.year + daysBeforeMonth date.year date.month + date.day

/-- The microseconds from the start of the calendar to a local date-time. -/
def DateTime.microseconds (moment : DateTime) : Nat :=
  let minutes := minutesOfDay * moment.date.number + 60 * moment.hour + moment.minute
  1000000 * (60 * minutes + moment.second) + moment.microsecond

namespace ZonedDateTime

/-- The instant that a date-time stands for, in microseconds of universal time. -/
def instant (zoned : ZonedDateTime) : Int :=
  zoned.moment.microseconds - 60000000 * zoned.offset

/-- The distance from universal time, as hours and minutes after a sign. -/
def offsetChars (zoned : ZonedDateTime) : List Char :=
  let minutes := zoned.offset.natAbs
  (if zoned.offset < 0 then '-' else '+') :: (Text.paddedDigits 2 (minutes / 60) ++
    ':' :: Text.paddedDigits 2 (minutes % 60))

/-- A date-time with a separator between its parts and its distance from universal time. -/
def charsWith (separator : Char) (zoned : ZonedDateTime) : List Char :=
  zoned.moment.charsWith separator ++ zoned.offsetChars

/-- A date-time with a `T` between its parts. -/
def text (zoned : ZonedDateTime) : String :=
  String.ofList (zoned.charsWith 'T')

/-- A date-time with a blank between its parts. -/
def spacedText (zoned : ZonedDateTime) : String :=
  String.ofList (zoned.charsWith ' ')

end ZonedDateTime

/-! ## Dates in messages -/

/-- Texts in parentheses after a name. -/
def appliedTexts (name : String) (parts : List String) : String :=
  name ++ "(" ++ Text.commaSeparated parts ++ ")"

/-- Numbers in parentheses after a name. -/
def applied (name : String) (parts : List Nat) : String :=
  appliedTexts name (parts.map Text.natText)

/-- The parts of a date, largest first. -/
def Date.parts (day : Date) : List Nat :=
  [day.year, day.month, day.day]

/-- A date as it is shown in messages. -/
def Date.quoted (day : Date) : String :=
  applied "datetime.date" day.parts

namespace DateTime

/-- The parts of a time of day; seconds and microseconds only where they are not zero. -/
def timeParts (moment : DateTime) : List Nat :=
  [moment.hour, moment.minute] ++
    (if moment.microsecond ≠ 0 then [moment.second, moment.microsecond]
     else if moment.second ≠ 0 then [moment.second]
     else [])

/-- A date-time as it is shown in messages. -/
def quoted (moment : DateTime) : String :=
  applied "datetime.datetime" (moment.date.parts ++ moment.timeParts)

end DateTime

/-- A span of minutes as it is shown in messages, by its whole days and the seconds beyond them. -/
def quotedSpan (minutes : Int) : String :=
  let days := minutes / minutesOfDay
  let seconds := 60 * (minutes % minutesOfDay)
  let named (name : String) (count : Int) : List String :=
    if count = 0 then [] else [name ++ "=" ++ Text.intText count]
  let parts := named "days" days ++ named "seconds" seconds
  appliedTexts "datetime.timedelta" (if parts = [] then ["0"] else parts)

/-- A date-time with a zone as it is shown in messages. -/
def ZonedDateTime.quoted (zoned : ZonedDateTime) : String :=
  let zone :=
    if zoned.offset = 0 then "datetime.timezone.utc"
    else appliedTexts "datetime.timezone" [quotedSpan zoned.offset]
  let parts := zoned.moment.date.parts ++ zoned.moment.timeParts
  appliedTexts "datetime.datetime" (parts.map Text.natText ++ ["tzinfo=" ++ zone])

end RowFilter
