import RowFilter.Proofs.Calendar.Order
import RowFilter.Proofs.Query.Row

/-!
# Dates and date-times in comparisons

A date that is compared with a column of date-times stands for its midnight, and
this is exact.  A date-time that is compared with a column of dates stands for
its date, and this changes the comparison with one day: its own.
-/

namespace RowFilter

/-! ## The relations of comparisons -/

namespace Comparison

variable {α : Type} [LinearOrder α] {comparison : Comparison} {left right : α}

/-- The order relation that a comparison stands for. -/
def Relates : Comparison → α → α → Prop
  | .eq, left, right => left = right
  | .gt, left, right => right < left
  | .ge, left, right => right ≤ left
  | .lt, left, right => left < right
  | .le, left, right => left ≤ right

instance : Decidable (comparison.Relates left right) :=
  match comparison with
  | .eq => inferInstanceAs (Decidable (left = right))
  | .gt => inferInstanceAs (Decidable (right < left))
  | .ge => inferInstanceAs (Decidable (right ≤ left))
  | .lt => inferInstanceAs (Decidable (left < right))
  | .le => inferInstanceAs (Decidable (left ≤ right))

theorem relates_iff_of_lt (less : left < right) :
    comparison.Relates left right ↔ comparison = .lt ∨ comparison = .le := by
  cases comparison <;> simp [Relates, less, less.ne, less.le, less.not_gt, less.not_ge]

theorem relates_iff_of_gt (greater : right < left) :
    comparison.Relates left right ↔ comparison = .gt ∨ comparison = .ge := by
  cases comparison <;>
    simp [Relates, greater, greater.ne', greater.le, greater.not_gt, greater.not_ge]

theorem relates_self_iff :
    comparison.Relates left left ↔ comparison = .eq ∨ comparison = .ge ∨ comparison = .le := by
  cases comparison <;> simp [Relates]

end Comparison

/-! ## Days and moments -/

/-- Where a comparison of a day with a moment changes when only the date of the moment is kept. -/
structure ChangesByDate (comparison : Comparison) (day : Date) (moment : DateTime) : Prop where
  /-- The moment is one of the day. -/
  date_eq : moment.date = day
  /-- The moment is not the first one of the day. -/
  ne_midnight : moment ≠ .midnight day
  /-- The comparison tells the first moment of a day from the later ones, with the day before. -/
  separates : comparison = .eq ∨ comparison = .ge ∨ comparison = .lt

/-- A day stands to the date of a moment as its midnight to the moment, but for one day. -/
theorem relates_date_iff_relates_midnight_iff
    {comparison : Comparison} {day : Date} {moment : DateTime} :
    (comparison.Relates day moment.date ↔ comparison.Relates (.midnight day) moment) ↔
      ¬ChangesByDate comparison day moment := by
  -- On any other day both sides of the comparison are decided by the dates alone.
  rcases lt_trichotomy day moment.date with earlier | rfl | later
  · rw [Comparison.relates_iff_of_lt earlier,
      Comparison.relates_iff_of_lt (DateTime.midnight_lt earlier)]
    exact iff_of_true Iff.rfl fun changes => earlier.ne' changes.date_eq
  · by_cases midnight : moment = .midnight moment.date
    · have unchanged : ¬ChangesByDate comparison moment.date moment :=
        fun changes => changes.ne_midnight midnight
      rw [← midnight, Comparison.relates_self_iff, Comparison.relates_self_iff]
      exact iff_of_true Iff.rfl unchanged
    · have later : DateTime.midnight moment.date < moment :=
        lt_of_le_of_ne moment.midnight_le (Ne.symm midnight)
      rw [Comparison.relates_self_iff, Comparison.relates_iff_of_lt later]
      constructor
      · rintro agree ⟨-, -, rfl | rfl | rfl⟩ <;> simp at agree
      · intro unchanged
        cases comparison with
        | gt | le => simp
        | eq => exact absurd ⟨rfl, midnight, .inl rfl⟩ unchanged
        | ge => exact absurd ⟨rfl, midnight, .inr (.inl rfl)⟩ unchanged
        | lt => exact absurd ⟨rfl, midnight, .inr (.inr rfl)⟩ unchanged
  · rw [Comparison.relates_iff_of_gt later,
      Comparison.relates_iff_of_gt (DateTime.lt_midnight later)]
    exact iff_of_true Iff.rfl fun changes => later.ne changes.date_eq

/-! ## Values and types of columns -/

/-- A value that is no date where date-times stand and no date-time where dates stand. -/
structure ColumnType.Takes (type : ColumnType) (value : Value) : Prop where
  /-- No date stands in a column of date-times. -/
  not_date : type = .timestamp → ∀ day, value ≠ .date day
  /-- No date-time stands in a column of dates. -/
  not_dateTime : type = .date → ∀ moment, value ≠ .dateTime moment

theorem ColumnType.takes_text (type : ColumnType) (content : String) :
    type.Takes (.text content) :=
  ⟨fun _ _ => Value.noConfusion, fun _ _ => Value.noConfusion⟩

/-- A column takes every value that is aligned with its type. -/
theorem ColumnType.takes_align (type : ColumnType) (value : Value) :
    type.Takes (align type value) := by
  constructor
  · rintro rfl day
    cases value <;> simp [align]
  · rintro rfl moment
    cases value <;> simp [align]

/-- A database that compares dates with dates, and date-times with date-times, by the calendar. -/
structure Database.KeepsCalendar (database : Database) : Prop where
  /-- Dates are compared by their order. -/
  compares_date : ∀ comparison left right,
    database.compares comparison (.date left) (.date right) = true ↔ comparison.Relates left right
  /-- Date-times are compared by their order. -/
  compares_dateTime : ∀ comparison left right,
    database.compares comparison (.dateTime left) (.dateTime right) = true ↔
      comparison.Relates left right

/-- Dates and date-times are compared by the calendar, and other values by what they are. -/
def Database.calendar : Database where
  compares comparison left right :=
    match left, right with
    | .date day, .date day' => decide (comparison.Relates day day')
    | .dateTime moment, .dateTime moment' => decide (comparison.Relates moment moment')
    | left, right => decide (left = right)
  textOf := Value.plain

theorem Database.calendar_keepsCalendar : Database.calendar.KeepsCalendar :=
  ⟨fun _ _ _ => decide_eq_true_iff, fun _ _ _ => decide_eq_true_iff⟩

end RowFilter
