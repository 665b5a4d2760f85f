import RowFilter.Text.Digit

/-!
# Calendar dates

Dates of the Gregorian calendar, extended backwards, with years from 1 to 9999.
A `Date` exists only for a day that the calendar has.
-/

namespace RowFilter

/-- A year with a twenty-ninth of February. -/
def isLeapYear (year : Nat) : Bool :=
  year % 4 == 0 && (year % 100 != 0 || year % 400 == 0)

/-- The number of days of a month. -/
def daysInMonth (year month : Nat) : Nat :=
  if month = 2 then if isLeapYear year then 29 else 28
  else if month = 4 ∨ month = 6 ∨ month = 9 ∨ month = 11 then 30
  else 31

/-- The calendar has this day. -/
def IsCalendarDay (year month day : Nat) : Prop :=
  (1 ≤ year ∧ year ≤ 9999) ∧ (1 ≤ month ∧ month ≤ 12) ∧ (1 ≤ day ∧ day ≤ daysInMonth year month)

instance (year month day : Nat) : Decidable (IsCalendarDay year month day) :=
  inferInstanceAs (Decidable (_ ∧ _ ∧ _))

/-- A day of the calendar. -/
structure Date where
  /-- The year, from 1 to 9999. -/
  year : Nat
  /-- The month, from 1 to 12. -/
  month : Nat
  /-- The day of the month. -/
  day : Nat
  /-- The calendar has this day. -/
  exists_day : IsCalendarDay year month day
deriving DecidableEq

namespace Date

/-- The date with the given parts, if the calendar has it. -/
def ofParts? (year month day : Nat) : Option Date :=
  if exists_day : IsCalendarDay year month day then some { year, month, day, exists_day } else none

/-- A date as `YYYY-MM-DD`. -/
def chars (date : Date) : List Char :=
  Text.paddedDigits 4 date.year ++ '-' :: (Text.paddedDigits 2 date.month ++
    '-' :: Text.paddedDigits 2 date.day)

/-- A date as `YYYY-MM-DD`. -/
def text (date : Date) : String :=
  String.ofList date.chars

/-- The number that two ASCII digits denote. -/
def readTwo? (tens ones : Char) : Option Nat :=
  match Text.asciiDigit? tens, Text.asciiDigit? ones with
  | some high, some low => some (10 * high + low)
  | _, _ => none

/-- The date written as `YYYY-MM-DD` in ASCII digits, with nothing around it. -/
def read? : List Char → Option Date
  | [y₁, y₂, y₃, y₄, '-', m₁, m₂, '-', d₁, d₂] =>
      match readTwo? y₁ y₂, readTwo? y₃ y₄, readTwo? m₁ m₂, readTwo? d₁ d₂ with
      | some century, some year, some month, some day => ofParts? (100 * century + year) month day
      | _, _, _, _ => none
  | _ => none

end Date
end RowFilter
