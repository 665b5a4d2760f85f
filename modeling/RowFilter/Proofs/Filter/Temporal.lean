import RowFilter.Filter.Operand
import RowFilter.Proofs.Calendar.Grammar
import RowFilter.Proofs.Filter.Refusal
import RowFilter.Proofs.Filter.Value

/-!
# The dates and date-times that tokens denote

A token is read as a date exactly when it spells a day of the calendar, and as a
date-time exactly when it spells such a day and a time of it.  The texts of dates
and date-times are read back as what they were written from.
-/

namespace RowFilter

/-- A token is read as what it spells, and is an invalid value where it spells nothing. -/
theorem described_coerce_of_spelled
    {Content : Type} {kind : Kind} {token : String}
    {spelled : Content → Prop} {value : Content → Value}
    (read : ∀ item,
      kind.read? token = some item ↔ ∃ content, spelled content ∧ item = value content)
    (field : String) :
    Described (coerce field token kind)
      (fun item => ∃ content, spelled content ∧ item = value content)
      (fun error => (∀ content, ¬spelled content) ∧ error = .invalidValue field kind token) := by
  refine (described_coerce field kind token).congr (fun item => ?_) fun error => ?_
  · rw [coerce_eq_ok_iff, read]
  · rw [TokenFault]
    refine and_congr_left fun _ => ?_
    simp only [ne_eq, coerce_eq_ok_iff, read]
    constructor
    · exact fun unread content spelled => unread _ ⟨content, spelled, rfl⟩
    · rintro unspelled item ⟨content, spelled, -⟩
      exact unspelled content spelled

/-- A token is read as a date exactly when it spells one. -/
theorem Kind.read?_date_eq_some_iff {token : String} {item : Value} :
    Kind.date.read? token = some item ↔
      ∃ day, Date.Spells token.toList day ∧ item = .date day := by
  simp only [Kind.read?, Option.map_eq_some_iff, Date.read?_eq_some_iff, @eq_comm _ item]

/-- An ASCII token is read as a date-time exactly when it spells one. -/
theorem Kind.read?_dateTime_eq_some_iff {token : String}
    (ascii : ∀ character ∈ token.toList, character.toNat < 128) {item : Value} :
    Kind.dateTime.read? token = some item ↔
      ∃ moment, DateTime.Spells token.toList moment ∧ item = .dateTime moment := by
  simp only [Kind.read?, Option.map_eq_some_iff, DateTime.read?_eq_some_iff ascii,
    @eq_comm _ item]

/-- What reading can give is read back from the text under its kind. -/
theorem coerce_canonical (field : String) {kind : Kind} {item : Value}
    (kind_eq : item.kind = some kind) (readable : item.IsReadable) :
    coerce field item.canonical kind = .ok item :=
  (coerce_eq_ok_iff field).2 (Kind.read?_canonical kind_eq readable)

/--
Among ASCII tokens those that are read as dates spell a day of the calendar in
the form `YYYY-MM-DD`, and those that are read as date-times spell such a day and
a time of it in the form `YYYY-MM-DDThh:mm`, with seconds and up to six places of
a fraction if wanted.  They are read as the parts that are written; every other
token is an invalid value.  Every date and every date-time is read back from its
text.
-/
theorem coerce_temporal_iff (field : String) {token : String}
    (ascii : ∀ character ∈ token.toList, character.toNat < 128) :
    Described (coerce field token .date)
      (fun item => ∃ day, Date.Spells token.toList day ∧ item = .date day)
      (fun error => (∀ day, ¬Date.Spells token.toList day) ∧
        error = .invalidValue field .date token) ∧
    Described (coerce field token .dateTime)
      (fun item => ∃ moment, DateTime.Spells token.toList moment ∧ item = .dateTime moment)
      (fun error => (∀ moment, ¬DateTime.Spells token.toList moment) ∧
        error = .invalidValue field .dateTime token) ∧
    (∀ day, ∃ text, Operand.render .date (.item (.date day)) = .ok text ∧
      coerce field text .date = .ok (.date day)) ∧
    ∀ moment, ∃ text, Operand.render .dateTime (.item (.dateTime moment)) = .ok text ∧
      coerce field text .dateTime = .ok (.dateTime moment) := by
  refine ⟨?_, ?_, fun day => ?_, fun moment => ?_⟩
  · exact described_coerce_of_spelled (fun _ => Kind.read?_date_eq_some_iff) field
  · exact described_coerce_of_spelled (fun _ => Kind.read?_dateTime_eq_some_iff ascii) field
  · exact ⟨day.text, rfl, @coerce_canonical field .date (.date day) rfl trivial⟩
  · exact ⟨moment.text, rfl, @coerce_canonical field .dateTime (.dateTime moment) rfl trivial⟩

/-- A leap second, a line feed at the end and an offset are refused. -/
example :
    DateTime.read? "2028-02-29T23:59:60".toList = none ∧
    DateTime.read? "2028-02-29T23:59:59\n".toList = none ∧
    DateTime.read? "2028-02-29T23:59:59Z".toList = none := by
  decide

/-! ### The last half second of a leap day -/

namespace Sample

/-- The last half second of a leap day. -/
def leapNight : DateTime where
  date := { year := 2028, month := 2, day := 29, exists_day := by decide }
  hour := 23
  minute := 59
  second := 59
  microsecond := 500000
  exists_time := by decide

theorem leapNight_spells : DateTime.Spells "2028-02-29T23:59:59.5".toList leapNight :=
  (DateTime.read?_eq_some_iff (by simp)).1 (by decide)

end Sample

/-- The last half second of a leap day is a date-time with a single decimal, and no date. -/
theorem coerce_temporal_iff_leapNight :
    (∀ character ∈ "2028-02-29T23:59:59.5".toList, character.toNat < 128) ∧
    coerce "seen" "2028-02-29T23:59:59.5" .date =
      .error (.invalidValue "seen" .date "2028-02-29T23:59:59.5") ∧
    coerce "seen" "2028-02-29T23:59:59.5" .dateTime = .ok (.dateTime Sample.leapNight) := by
  have ascii : ∀ character ∈ "2028-02-29T23:59:59.5".toList, character.toNat < 128 := by simp
  obtain ⟨asDate, asDateTime, -, -⟩ := coerce_temporal_iff "seen" ascii
  have noDate : ∀ day, ¬Date.Spells "2028-02-29T23:59:59.5".toList day := by
    intro day spells
    rw [← Date.read?_eq_some_iff] at spells
    cases spells
  exact ⟨ascii, (asDate.eq_error_iff _).2 ⟨noDate, rfl⟩,
    (asDateTime.eq_ok_iff _).2 ⟨_, Sample.leapNight_spells, rfl⟩⟩

end RowFilter
