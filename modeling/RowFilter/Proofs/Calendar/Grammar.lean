import Mathlib.Data.List.Forall2
import RowFilter.Proofs.Calendar.Reading

/-!
# The grammar of dates and date-times

A date is four digits for the year and two each for the month and the day.  A
date-time is a date and a time of day: hour and minute, then seconds if wanted,
and then a fraction of a second if wanted.  The readers accept what the grammar
has and give the parts that are written, for date-times among ASCII characters.
-/

namespace RowFilter

/-! ## Numbers in a fixed number of places -/

namespace Text

/-- ASCII digits, with their values. -/
abbrev AreAsciiDigits (word : List Char) (digits : List Nat) : Prop :=
  List.Forall₂ (fun character digit => asciiDigit? character = some digit) word digits

/-- A number in the given number of places, each of them an ASCII digit. -/
structure FillsPlaces (width : Nat) (word : List Char) (value : Nat) : Prop where
  /-- There is a character for each place. -/
  length_eq : word.length = width
  /-- The characters are digits that denote the number. -/
  denotes : ∃ digits, AreAsciiDigits word digits ∧ digitsValue digits = value

/-- Among ASCII characters the digits of any script are the ASCII ones. -/
theorem digit?_of_ascii {character : Char} (ascii : character.toNat < 128) :
    digit? character = asciiDigit? character := by
  rw [digit?, if_pos ascii]

/-- All characters are read as digits when each of them is one. -/
theorem mapM_asciiDigit?_eq_some_iff {word : List Char} {digits : List Nat} :
    word.mapM asciiDigit? = some digits ↔ AreAsciiDigits word digits := by
  induction word generalizing digits with
  | nil => simp [eq_comm]
  | cons character word inductionHypothesis =>
      simp only [List.mapM_cons, Option.bind_eq_bind, Option.bind_eq_some_iff,
        Option.pure_def, Option.some.injEq, List.forall₂_cons_left_iff, inductionHypothesis]
      constructor
      · rintro ⟨digit, first, rest, others, rfl⟩
        exact ⟨digit, rest, first, others, rfl⟩
      · rintro ⟨digit, rest, first, others, rfl⟩
        exact ⟨digit, first, rest, others, rfl⟩

/-- Two places are a ten and a one. -/
theorem fillsPlaces_two_iff {tens ones : Char} {value : Nat} :
    FillsPlaces 2 [tens, ones] value ↔
      ∃ high low, asciiDigit? tens = some high ∧ asciiDigit? ones = some low ∧
        10 * high + low = value := by
  constructor
  · rintro ⟨-, digits, each, rfl⟩
    cases each with
    | cons high others =>
        cases others with
        | cons low none =>
            cases none
            exact ⟨_, _, high, low, by simp [digitsValue]⟩
  · rintro ⟨high, low, tensDigit, onesDigit, rfl⟩
    exact ⟨rfl, [high, low], .cons tensDigit (.cons onesDigit .nil), by simp [digitsValue]⟩

/-- Four places are two times two. -/
theorem fillsPlaces_four_iff {first second third fourth : Char} {value : Nat} :
    FillsPlaces 4 [first, second, third, fourth] value ↔
      ∃ century year, FillsPlaces 2 [first, second] century ∧
        FillsPlaces 2 [third, fourth] year ∧ 100 * century + year = value := by
  constructor
  · rintro ⟨-, digits, each, rfl⟩
    have places : digits.length = 4 := each.length_eq.symm
    refine ⟨digitsValue (digits.take 2), digitsValue (digits.drop 2),
      ⟨rfl, _, List.forall₂_take 2 each, rfl⟩, ⟨rfl, _, List.forall₂_drop 2 each, rfl⟩, ?_⟩
    match digits, places with
    | [thousands, hundreds, tens, ones], _ =>
        simp only [digitsValue, List.take, List.drop, List.foldl_cons, List.foldl_nil]
        omega
  · rintro ⟨century, year, centuryFills, yearFills, rfl⟩
    obtain ⟨_, _, thousands, hundreds, rfl⟩ := fillsPlaces_two_iff.1 centuryFills
    obtain ⟨_, _, tens, ones, rfl⟩ := fillsPlaces_two_iff.1 yearFills
    refine ⟨rfl, _, .cons thousands (.cons hundreds (.cons tens (.cons ones .nil))), ?_⟩
    simp only [digitsValue, List.foldl_cons, List.foldl_nil]
    omega

/-- Two places are filled by two characters. -/
theorem FillsPlaces.exists_two {word : List Char} {value : Nat} (fills : FillsPlaces 2 word value) :
    ∃ tens ones, word = [tens, ones] :=
  List.length_eq_two.1 fills.length_eq

/-- Four places are filled by four characters. -/
theorem FillsPlaces.exists_four
    {word : List Char} {value : Nat} (fills : FillsPlaces 4 word value) :
    ∃ first second third fourth, word = [first, second, third, fourth] := by
  match word, fills.length_eq with
  | [first, second, third, fourth], _ => exact ⟨first, second, third, fourth, rfl⟩

end Text

/-! ## Dates -/

namespace Date

open Text (FillsPlaces)

/-- Characters that are a date: year, month and day in digits, with dashes between them. -/
inductive Spells : List Char → Date → Prop
  | intro {year month day : List Char} {date : Date}
      (yearFills : FillsPlaces 4 year date.year)
      (monthFills : FillsPlaces 2 month date.month)
      (dayFills : FillsPlaces 2 day date.day) :
      Spells (year ++ '-' :: (month ++ '-' :: day)) date

/-- A date has the parts that it is made from. -/
theorem ofParts?_eq_some_iff {year month day : Nat} {date : Date} :
    ofParts? year month day = some date ↔
      date.year = year ∧ date.month = month ∧ date.day = day := by
  constructor
  · intro made
    rw [ofParts?] at made
    split at made
    · cases made
      exact ⟨rfl, rfl, rfl⟩
    · cases made
  · rintro ⟨rfl, rfl, rfl⟩
    exact ofParts?_parts date

/-- Two characters are read exactly when they fill two places. -/
theorem readTwo?_eq_some_iff {tens ones : Char} {value : Nat} :
    readTwo? tens ones = some value ↔ FillsPlaces 2 [tens, ones] value := by
  rw [Text.fillsPlaces_two_iff, readTwo?]
  cases Text.asciiDigit? tens <;> cases Text.asciiDigit? ones <;> simp

/-- The dates that are read are those that are spelled. -/
theorem read?_eq_some_iff {characters : List Char} {date : Date} :
    read? characters = some date ↔ Spells characters date := by
  constructor
  · intro read
    unfold read? at read
    split at read
    · next y₁ y₂ y₃ y₄ m₁ m₂ d₁ d₂ =>
        split at read
        · next century year month day centuryRead yearRead monthRead dayRead =>
            rw [readTwo?_eq_some_iff] at centuryRead yearRead monthRead dayRead
            obtain ⟨year_eq, rfl, rfl⟩ := ofParts?_eq_some_iff.1 read
            have yearFills : FillsPlaces 4 [y₁, y₂, y₃, y₄] date.year :=
              Text.fillsPlaces_four_iff.2 ⟨century, year, centuryRead, yearRead, year_eq.symm⟩
            exact .intro yearFills monthRead dayRead
        · cases read
    · cases read
  · rintro ⟨yearFills, monthFills, dayFills⟩
    obtain ⟨y₁, y₂, y₃, y₄, rfl⟩ := yearFills.exists_four
    obtain ⟨m₁, m₂, rfl⟩ := monthFills.exists_two
    obtain ⟨d₁, d₂, rfl⟩ := dayFills.exists_two
    obtain ⟨century, year, centuryFills, yearFills, year_eq⟩ :=
      Text.fillsPlaces_four_iff.1 yearFills
    rw [← readTwo?_eq_some_iff] at centuryFills yearFills monthFills dayFills
    simp only [List.cons_append, List.nil_append, read?, centuryFills, yearFills, monthFills,
      dayFills, year_eq, ofParts?_parts]

end Date

/-! ## Date-times -/

namespace DateTime

open Text (FillsPlaces AreAsciiDigits)

/--
Characters that give the seconds of a time of day, and the microseconds: a
fraction of some places counts in units of its last place.
-/
inductive SpellsSeconds : List Char → Nat → Nat → Prop
  | absent : SpellsSeconds [] 0 0
  | whole {word : List Char} {second : Nat} (secondFills : FillsPlaces 2 word second) :
      SpellsSeconds (':' :: word) second 0
  | fraction {word tail : List Char} {places second part : Nat}
      (secondFills : FillsPlaces 2 word second)
      (atLeast : 1 ≤ places) (atMost : places ≤ 6) (tailFills : FillsPlaces places tail part) :
      SpellsSeconds (':' :: (word ++ '.' :: tail)) second (part * Nat.pow 10 (6 - places))

/-- Characters that are a date and a time of day, with a `T` between them. -/
inductive Spells : List Char → DateTime → Prop
  | intro {date hour minute seconds : List Char} {moment : DateTime}
      (dateSpells : Date.Spells date moment.date)
      (hourFills : FillsPlaces 2 hour moment.hour)
      (minuteFills : FillsPlaces 2 minute moment.minute)
      (secondsSpell : SpellsSeconds seconds moment.second moment.microsecond) :
      Spells (date ++ 'T' :: (hour ++ ':' :: (minute ++ seconds))) moment

/-- A date-time has the parts that it is made from. -/
theorem ofParts?_eq_some_iff
    {date : Date} {hour minute second microsecond : Nat} {moment : DateTime} :
    ofParts? date hour minute second microsecond = some moment ↔
      moment.date = date ∧ moment.hour = hour ∧ moment.minute = minute ∧
        moment.second = second ∧ moment.microsecond = microsecond := by
  constructor
  · intro made
    rw [ofParts?] at made
    split at made
    · cases made
      exact ⟨rfl, rfl, rfl, rfl, rfl⟩
    · cases made
  · rintro ⟨rfl, rfl, rfl, rfl, rfl⟩
    exact ofParts?_parts moment

/-- Among ASCII characters it is no matter where a digit of any script may stand. -/
theorem readPair?_eq_some_iff
    (wideAfter : Nat → Bool) {tens ones : Char} (ascii : ones.toNat < 128) {value : Nat} :
    readPair? wideAfter tens ones = some value ↔ FillsPlaces 2 [tens, ones] value := by
  rw [← Date.readTwo?_eq_some_iff, readPair?, Date.readTwo?, Text.digit?_of_ascii ascii]
  cases Text.asciiDigit? tens <;> cases Text.asciiDigit? ones <;> simp

/-- A year is read from four places. -/
theorem readYear?_eq_some_iff {first second third fourth : Char}
    (ascii : ∀ character ∈ [first, second, third, fourth], character.toNat < 128) {value : Nat} :
    readYear? first second third fourth = some value ↔
      FillsPlaces 4 [first, second, third, fourth] value := by
  have digit?_eq : ∀ character ∈ [first, second, third, fourth],
      Text.digit? character = Text.asciiDigit? character :=
    fun character member => Text.digit?_of_ascii (ascii character member)
  simp only [List.forall_mem_cons] at digit?_eq
  simp only [Text.fillsPlaces_four_iff, ← Date.readTwo?_eq_some_iff, Date.readTwo?, readYear?,
    digit?_eq]
  cases Text.asciiDigit? first <;> cases Text.asciiDigit? second <;>
    cases Text.asciiDigit? third <;> cases Text.asciiDigit? fourth <;> simp
  omega

/-- A fraction has up to six places, and those that are left out count as zeros. -/
theorem readFraction?_eq_some_iff {tail : List Char} {microsecond : Nat} :
    readFraction? tail = some microsecond ↔
      ∃ part, 1 ≤ tail.length ∧ tail.length ≤ 6 ∧ FillsPlaces tail.length tail part ∧
        part * Nat.pow 10 (6 - tail.length) = microsecond := by
  rw [readFraction?]
  constructor
  · intro read
    split at read
    · cases read
    · next bounds =>
        obtain ⟨digits, each, value_eq⟩ := Option.map_eq_some_iff.1 read
        exact ⟨_, by omega, by omega,
          ⟨rfl, digits, Text.mapM_asciiDigit?_eq_some_iff.1 each, rfl⟩, value_eq⟩
  · rintro ⟨_, atLeast, atMost, ⟨-, digits, each, rfl⟩, rfl⟩
    rw [if_neg (by omega), Text.mapM_asciiDigit?_eq_some_iff.2 each, Option.map_some]

/-- What follows the minutes is read exactly when it spells seconds. -/
theorem readSeconds?_eq_some_iff {characters : List Char}
    (ascii : ∀ character ∈ characters, character.toNat < 128) {second microsecond : Nat} :
    readSeconds? characters = some (second, microsecond) ↔
      SpellsSeconds characters second microsecond := by
  constructor
  · intro read
    unfold readSeconds? at read
    split at read
    · cases read
      exact .absent
    · next s₁ s₂ =>
        obtain ⟨value, wholeRead, equal⟩ := Option.map_eq_some_iff.1 read
        cases equal
        exact .whole ((readPair?_eq_some_iff _ (ascii s₂ (by simp))).1 wholeRead)
    · next s₁ s₂ tail =>
        split at read
        · next wholeRead fractionRead =>
            cases read
            obtain ⟨part, atLeast, atMost, fills, rfl⟩ := readFraction?_eq_some_iff.1 fractionRead
            have wholeFills := (readPair?_eq_some_iff _ (ascii s₂ (by simp))).1 wholeRead
            exact .fraction wholeFills atLeast atMost fills
        · cases read
    · cases read
  · intro spells
    cases spells with
    | absent => rfl
    | whole secondFills =>
        obtain ⟨s₁, s₂, rfl⟩ := secondFills.exists_two
        rw [readSeconds?, (readPair?_eq_some_iff _ (ascii s₂ (by simp))).2 secondFills,
          Option.map_some]
    | @fraction _ tail _ _ _ secondFills atLeast atMost tailFills =>
        obtain ⟨s₁, s₂, rfl⟩ := secondFills.exists_two
        obtain rfl := tailFills.length_eq
        have fractionRead := readFraction?_eq_some_iff.2 ⟨_, atLeast, atMost, tailFills, rfl⟩
        simp only [List.cons_append, List.nil_append, readSeconds?,
          (readPair?_eq_some_iff _ (ascii s₂ (by simp))).2 secondFills, fractionRead]

/-- Among ASCII characters the date-times that are read are those that are spelled. -/
theorem read?_eq_some_iff {characters : List Char}
    (ascii : ∀ character ∈ characters, character.toNat < 128) {moment : DateTime} :
    read? characters = some moment ↔ Spells characters moment := by
  constructor
  · intro read
    unfold read? at read
    split at read
    · next y₁ y₂ y₃ y₄ m₁ m₂ d₁ d₂ h₁ h₂ n₁ n₂ rest =>
        have asciiRest : ∀ character ∈ rest, character.toNat < 128 :=
          fun character member => ascii character (by simp [member])
        simp only [List.forall_mem_cons] at ascii
        simp only [Option.bind_eq_bind, Option.bind_eq_some_iff] at read
        obtain ⟨year, yearRead, month, monthRead, day, dayRead, hour, hourRead, minute, minuteRead,
          ⟨second, microsecond⟩, secondsRead, date, dateMade, made⟩ := read
        rw [readYear?_eq_some_iff (by simp [ascii])] at yearRead
        rw [readPair?_eq_some_iff _ (by simp [ascii])] at monthRead dayRead hourRead minuteRead
        rw [readSeconds?_eq_some_iff asciiRest] at secondsRead
        obtain ⟨rfl, rfl, rfl, rfl, rfl⟩ := ofParts?_eq_some_iff.1 made
        obtain ⟨rfl, rfl, rfl⟩ := Date.ofParts?_eq_some_iff.1 dateMade
        have dateSpells := Date.Spells.intro yearRead monthRead dayRead
        exact .intro dateSpells hourRead minuteRead secondsRead
    · cases read
  · intro spells
    obtain @⟨_, _, _, seconds, _, ⟨yearFills, monthFills, dayFills⟩, hourFills, minuteFills,
      secondsSpell⟩ := spells
    obtain ⟨y₁, y₂, y₃, y₄, rfl⟩ := yearFills.exists_four
    obtain ⟨m₁, m₂, rfl⟩ := monthFills.exists_two
    obtain ⟨d₁, d₂, rfl⟩ := dayFills.exists_two
    obtain ⟨h₁, h₂, rfl⟩ := hourFills.exists_two
    obtain ⟨n₁, n₂, rfl⟩ := minuteFills.exists_two
    have asciiSeconds : ∀ character ∈ seconds, character.toNat < 128 :=
      fun character member => ascii character (by simp [member])
    simp only [List.cons_append, List.nil_append, List.forall_mem_cons] at ascii
    have yearRead := (readYear?_eq_some_iff (by simp [ascii])).2 yearFills
    have secondsRead := (readSeconds?_eq_some_iff asciiSeconds).2 secondsSpell
    have pairRead {tens ones : Char} {value : Nat} (asciiOnes : ones.toNat < 128)
        (fills : FillsPlaces 2 [tens, ones] value) (wideAfter : Nat → Bool) :
        readPair? wideAfter tens ones = some value :=
      (readPair?_eq_some_iff wideAfter asciiOnes).2 fills
    simp only [List.cons_append, List.nil_append, read?, yearRead, secondsRead,
      pairRead (by simp [ascii]) monthFills, pairRead (by simp [ascii]) dayFills,
      pairRead (by simp [ascii]) hourFills, pairRead (by simp [ascii]) minuteFills,
      Option.bind_eq_bind, Option.bind_some, Date.ofParts?_parts, ofParts?_parts]

end DateTime
end RowFilter
