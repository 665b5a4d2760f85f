import Mathlib.Data.Prod.Lex
import RowFilter.Calendar.DateTime

/-!
# The order of dates and date-times

Dates are ordered by year, month and day, and date-times by their dates and then
by their times of day.  The midnight of a day is its first moment, so it stands
to a moment of another day as the day does to the day of the moment.
-/

namespace RowFilter

/-! ## Dates -/

namespace Date

/-- The parts of a date, in the order in which they are compared. -/
def key (date : Date) : ℕ ×ₗ ℕ ×ₗ ℕ :=
  toLex (date.year, toLex (date.month, date.day))

/-- A date is determined by its place in the calendar. -/
theorem key_injective : Function.Injective key := by
  rintro ⟨year, month, day, _⟩ ⟨year', month', day', _⟩ equal
  simpa [key] using equal

instance : LinearOrder Date := LinearOrder.lift' key key_injective

end Date

/-! ## Date-times -/

namespace DateTime

/-- The parts of a time of day, in the order in which they are compared. -/
def timeKey (moment : DateTime) : ℕ ×ₗ ℕ ×ₗ ℕ ×ₗ ℕ :=
  toLex (moment.hour, toLex (moment.minute, toLex (moment.second, moment.microsecond)))

/-- A date-time is compared by its date first. -/
def key (moment : DateTime) : Date ×ₗ ℕ ×ₗ ℕ ×ₗ ℕ ×ₗ ℕ :=
  toLex (moment.date, moment.timeKey)

/-- A date-time is determined by its place in time. -/
theorem key_injective : Function.Injective key := by
  rintro ⟨date, hour, minute, second, microsecond, _⟩
    ⟨date', hour', minute', second', microsecond', _⟩ equal
  simpa [key, timeKey] using equal

instance : LinearOrder DateTime := LinearOrder.lift' key key_injective

/-- Date-times are ordered by their days first, then by the time of day. -/
theorem lt_iff {left right : DateTime} :
    left < right ↔
      left.date < right.date ∨ left.date = right.date ∧ left.timeKey < right.timeKey :=
  Prod.Lex.toLex_lt_toLex

/-- The midnight of an earlier day comes first. -/
theorem midnight_lt {date : Date} {moment : DateTime} (earlier : date < moment.date) :
    midnight date < moment :=
  lt_iff.2 (.inl earlier)

/-- The midnight of a later day comes last. -/
theorem lt_midnight {date : Date} {moment : DateTime} (later : moment.date < date) :
    moment < midnight date :=
  lt_iff.2 (.inl later)

/-- No moment of a day comes before its midnight. -/
theorem midnight_le (moment : DateTime) : midnight moment.date ≤ moment := by
  rw [← not_lt, lt_iff]
  rintro (earlier | ⟨-, earlier⟩)
  · exact lt_irrefl _ earlier
  · simp [timeKey, midnight, Prod.Lex.toLex_lt_toLex] at earlier

end DateTime
end RowFilter
