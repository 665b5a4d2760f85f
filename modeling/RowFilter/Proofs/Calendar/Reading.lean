import RowFilter.Calendar.DateTime
import RowFilter.Proofs.Text.Digit

/-!
# Dates and date-times are read back

The parts of a date and of a time of day fit into the places that their texts
have for them, so the texts denote what they were written from.
-/

namespace RowFilter

/-! ## Dates -/

namespace Date

/-- No month has more than thirty-one days. -/
theorem daysInMonth_le (year month : Nat) : daysInMonth year month ≤ 31 := by
  unfold daysInMonth
  split
  · split <;> omega
  · split <;> omega

theorem year_lt (date : Date) : date.year < 10000 := by
  have bounds := date.exists_day.1
  omega

theorem month_lt (date : Date) : date.month < 100 := by
  have bounds := date.exists_day.2.1
  omega

theorem day_lt (date : Date) : date.day < 100 := by
  have bounds := date.exists_day.2.2
  have month := daysInMonth_le date.year date.month
  omega

/-- A date is made again from its parts. -/
theorem ofParts?_parts (date : Date) : ofParts? date.year date.month date.day = some date := by
  rw [ofParts?, dif_pos date.exists_day]

/-- Two digits are read as ten times the first and the second. -/
theorem readTwo?_digitChar {high low : Nat} (highBelow : high < 10) (lowBelow : low < 10) :
    readTwo? high.digitChar low.digitChar = some (10 * high + low) := by
  rw [readTwo?, Text.asciiDigit?_digitChar highBelow, Text.asciiDigit?_digitChar lowBelow]

/-- The characters of a date, one by one. -/
theorem chars_eq (date : Date) :
    date.chars =
      [(date.year / 1000).digitChar, (date.year / 100 % 10).digitChar,
        (date.year / 10 % 10).digitChar, (date.year % 10).digitChar, '-',
        (date.month / 10).digitChar, (date.month % 10).digitChar, '-',
        (date.day / 10).digitChar, (date.day % 10).digitChar] := by
  rw [chars, Text.paddedDigits_four date.year_lt, Text.paddedDigits_two date.month_lt,
    Text.paddedDigits_two date.day_lt]
  rfl

/-- A date is what its text denotes. -/
theorem read?_chars (date : Date) : read? date.chars = some date := by
  have yearBound := date.year_lt
  have monthBound := date.month_lt
  have dayBound := date.day_lt
  have year : 100 * (10 * (date.year / 1000) + date.year / 100 % 10) +
      (10 * (date.year / 10 % 10) + date.year % 10) = date.year := by omega
  have month : 10 * (date.month / 10) + date.month % 10 = date.month := by omega
  have day : 10 * (date.day / 10) + date.day % 10 = date.day := by omega
  rw [chars_eq, read?, readTwo?_digitChar (by omega) (by omega),
    readTwo?_digitChar (by omega) (by omega), readTwo?_digitChar (by omega) (by omega),
    readTwo?_digitChar (by omega) (by omega)]
  simp only [year, month, day, ofParts?_parts]

end Date

/-! ## Date-times -/

namespace DateTime

/-- A date-time is made again from its parts. -/
theorem ofParts?_parts (moment : DateTime) :
    ofParts? moment.date moment.hour moment.minute moment.second moment.microsecond =
      some moment := by
  rw [ofParts?, dif_pos moment.exists_time]

/-- Whether the second digit may be of any script is no matter for ASCII digits. -/
theorem readPair?_digitChar
    (wideAfter : Nat → Bool) {high low : Nat} (highBelow : high < 10) (lowBelow : low < 10) :
    readPair? wideAfter high.digitChar low.digitChar = some (10 * high + low) := by
  rw [readPair?, Text.asciiDigit?_digitChar highBelow, Text.asciiDigit?_digitChar lowBelow,
    Text.digit?_digitChar lowBelow]
  simp

/-- Two digits that have been written are read back, whichever scripts would be allowed. -/
theorem readPair?_paddedDigits (wideAfter : Nat → Bool) {value : Nat} (below : value < 100) :
    readPair? wideAfter (value / 10).digitChar (value % 10).digitChar = some value := by
  rw [readPair?_digitChar wideAfter (by omega) (by omega)]
  exact congrArg some (by omega)

/-- The four digits of a year are read back. -/
theorem readYear?_paddedDigits {year : Nat} (below : year < 10000) :
    readYear? (year / 1000).digitChar (year / 100 % 10).digitChar (year / 10 % 10).digitChar
      (year % 10).digitChar = some year := by
  rw [readYear?, Text.digit?_digitChar (by omega), Text.digit?_digitChar (by omega),
    Text.digit?_digitChar (by omega), Text.digit?_digitChar (by omega)]
  exact congrArg some (by omega)

/-- Microseconds in six places are read back. -/
theorem readFraction?_paddedDigits {microsecond : Nat} (below : microsecond < 1000000) :
    readFraction? (Text.paddedDigits 6 microsecond) = some microsecond := by
  have six : (Text.paddedDigits 6 microsecond).length = 6 :=
    Text.length_paddedDigits (by decide) below
  rw [readFraction?, six, if_neg (by omega),
    Text.mapM_asciiDigit? fun _ => Text.isDigit_of_mem_paddedDigits]
  simp

/-- Seconds are read back with their microseconds, which are left out when there are none. -/
theorem readSeconds?_chars (moment : DateTime) :
    readSeconds?
        (':' :: (Text.paddedDigits 2 moment.second ++
          if moment.microsecond = 0 then [] else '.' :: Text.paddedDigits 6 moment.microsecond)) =
      some (moment.second, moment.microsecond) := by
  obtain ⟨_, _, secondBound, fractionBound⟩ := moment.exists_time
  rw [Text.paddedDigits_two (by omega)]
  split
  · next whole =>
      rw [List.append_nil, readSeconds?, readPair?_paddedDigits _ (by omega), whole]
      rfl
  · rw [List.cons_append, List.singleton_append, readSeconds?,
      readPair?_paddedDigits _ (by omega), readFraction?_paddedDigits fractionBound]

/-- A date-time is what its text denotes. -/
theorem read?_charsWith (moment : DateTime) : read? (moment.charsWith 'T') = some moment := by
  obtain ⟨hourBound, minuteBound, _, _⟩ := moment.exists_time
  rw [charsWith, Date.chars_eq, timeChars, Text.paddedDigits_two (by omega : moment.hour < 100),
    Text.paddedDigits_two (by omega : moment.minute < 100)]
  simp only [List.cons_append, List.nil_append, read?, readSeconds?_chars,
    readYear?_paddedDigits moment.date.year_lt,
    readPair?_paddedDigits _ moment.date.month_lt, readPair?_paddedDigits _ moment.date.day_lt,
    readPair?_paddedDigits _ (by omega : moment.hour < 100),
    readPair?_paddedDigits _ (by omega : moment.minute < 100)]
  rw [Option.bind_eq_bind, Option.bind_some]
  simp only [Option.bind_eq_bind, Option.bind_some, Date.ofParts?_parts, ofParts?_parts]

end DateTime
end RowFilter
