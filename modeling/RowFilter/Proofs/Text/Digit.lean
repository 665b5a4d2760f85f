import RowFilter.Text.Digit

/-!
# The digits of a number denote it

The decimal digits of a number are ASCII digits, and reading them gives the
number back, with zeros in front or without.  So different integers have
different texts.
-/

namespace RowFilter
namespace Text

/-- The values of ASCII digits. -/
def digitValues (characters : List Char) : List Nat :=
  characters.map fun character => character.toNat - 48

theorem toNat_lt_of_isDigit {character : Char} (isDigit : character.isDigit = true) :
    character.toNat < 128 := by
  simp only [Char.isDigit, Bool.and_eq_true, decide_eq_true_eq] at isDigit
  have bound : character.val.toNat ≤ 57 := UInt32.le_iff_toNat_le.1 isDigit.2
  exact Nat.lt_of_le_of_lt bound (by decide)

theorem asciiDigit?_of_isDigit {character : Char} (isDigit : character.isDigit = true) :
    asciiDigit? character = some (character.toNat - 48) := by
  rw [asciiDigit?, if_pos isDigit]

theorem digit?_of_isDigit {character : Char} (isDigit : character.isDigit = true) :
    digit? character = some (character.toNat - 48) := by
  rw [digit?, if_pos (toNat_lt_of_isDigit isDigit), asciiDigit?_of_isDigit isDigit]

/-- Numbers are written in ASCII digits. -/
theorem isDigit_of_mem_digitChars
    {value : Nat} {character : Char} (member : character ∈ digitChars value) :
    character.isDigit = true :=
  Nat.isDigit_of_mem_toDigits (by decide) (by decide) member

theorem digitChars_ne_nil (value : Nat) : digitChars value ≠ [] :=
  Nat.toDigits_ne_nil

/-- A number has as many digits as its size asks for. -/
theorem length_digitChars_le_iff {value places : Nat} (positive : 0 < places) :
    (digitChars value).length ≤ places ↔ value < Nat.pow 10 places :=
  Nat.length_toDigits_le_iff (by decide) positive

/-- The number that digits denote is the one that the library reads from them. -/
theorem digitsValue_digitValues (characters : List Char) :
    digitsValue (digitValues characters) = Nat.ofDigitChars 10 characters 0 := by
  rw [digitsValue, digitValues, List.foldl_map, Nat.ofDigitChars_eq_foldl]
  rfl

@[simp] theorem digitsValue_digitChars (value : Nat) :
    digitsValue (digitValues (digitChars value)) = value := by
  rw [digitsValue_digitValues, digitChars, Nat.ofDigitChars_toDigits (by decide) (by decide)]

/-- Two numbers with the same digits are the same. -/
theorem digitChars_injective {left right : Nat} (equal : digitChars left = digitChars right) :
    left = right := by
  rw [← digitsValue_digitChars left, equal, digitsValue_digitChars]

/-- Two integers with the same characters are the same. -/
theorem intChars_injective {left right : Int} (equal : intChars left = intChars right) :
    left = right := by
  have not_minus (value : Nat) (rest : List Char) : digitChars value ≠ '-' :: rest := by
    intro minus
    have isDigit := isDigit_of_mem_digitChars (minus ▸ List.mem_cons_self)
    exact absurd isDigit (by decide)
  unfold intChars at equal
  split at equal <;> split at equal
  · have := digitChars_injective (List.cons.inj equal).2
    omega
  · exact absurd equal.symm (not_minus _ _)
  · exact absurd equal (not_minus _ _)
  · have := digitChars_injective equal
    omega

/-- Two integers with the same text are the same. -/
theorem intText_injective {left right : Int} (equal : intText left = intText right) :
    left = right :=
  intChars_injective (String.ofList_injective equal)

/-! ## Zeros in front -/

/-- Zeros in front count for nothing. -/
theorem digitsValue_zeros_append (count : Nat) (characters : List Char) :
    digitsValue (digitValues (List.replicate count '0' ++ characters)) =
      digitsValue (digitValues characters) := by
  rw [digitsValue_digitValues, digitsValue_digitValues, Nat.ofDigitChars_append,
    Nat.ofDigitChars_replicate_zero, Nat.mul_zero]

theorem isDigit_of_mem_zeros {count : Nat} {character : Char}
    (member : character ∈ List.replicate count '0') :
    character.isDigit = true := by
  rw [List.eq_of_mem_replicate member]
  decide

/-- Padded numbers are written in ASCII digits. -/
theorem isDigit_of_mem_paddedDigits
    {width value : Nat} {character : Char} (member : character ∈ paddedDigits width value) :
    character.isDigit = true := by
  rcases List.mem_append.1 member with zero | digit
  · exact isDigit_of_mem_zeros zero
  · exact isDigit_of_mem_digitChars digit

@[simp] theorem digitsValue_paddedDigits (width value : Nat) :
    digitsValue (digitValues (paddedDigits width value)) = value := by
  rw [paddedDigits, digitsValue_zeros_append, digitsValue_digitChars]

/-- A number that fits has exactly the places that it is padded to. -/
theorem length_paddedDigits
    {width value : Nat} (positive : 0 < width) (below : value < Nat.pow 10 width) :
    (paddedDigits width value).length = width := by
  have fits := (length_digitChars_le_iff positive).2 below
  rw [paddedDigits, List.length_append, List.length_replicate]
  omega

/-- Characters that are digits are read one by one. -/
theorem mapM_asciiDigit?
    {characters : List Char} (digits : ∀ character ∈ characters, character.isDigit = true) :
    characters.mapM asciiDigit? = some (digitValues characters) := by
  induction characters with
  | nil => rfl
  | cons character characters inductionHypothesis =>
      rw [List.forall_mem_cons] at digits
      rw [List.mapM_cons, asciiDigit?_of_isDigit digits.1, inductionHypothesis digits.2]
      rfl

/-! ## Digits one by one -/

theorem asciiDigit?_digitChar {digit : Nat} (below : digit < 10) :
    asciiDigit? digit.digitChar = some digit := by
  have each : ∀ digit < 10, asciiDigit? (Nat.digitChar digit) = some digit := by decide
  exact each digit below

theorem digit?_digitChar {digit : Nat} (below : digit < 10) :
    digit? digit.digitChar = some digit := by
  have each : ∀ digit < 10, digit? (Nat.digitChar digit) = some digit := by decide
  exact each digit below

/-- Among the ASCII characters there are ten digits. -/
theorem digit?_eq_some_iff_of_ascii
    {character : Char} (ascii : character.toNat < 128) {value : Nat} :
    digit? character = some value ↔ value < 10 ∧ character = value.digitChar := by
  have each : ∀ code < 128, ∀ digit ∈ digit? (Char.ofNat code),
      digit < 10 ∧ Char.ofNat code = digit.digitChar := by
    decide
  constructor
  · intro digit
    have found := each character.toNat ascii value
    rw [Char.ofNat_toNat] at found
    exact found digit
  · rintro ⟨below, rfl⟩
    exact digit?_digitChar below

theorem paddedDigits_one {value : Nat} (below : value < 10) :
    paddedDigits 1 value = [value.digitChar] := by
  rw [paddedDigits, digitChars, Nat.toDigits_of_lt_base below]
  rfl

/-- The last digit of a padded number, with the number of the other digits padded before it. -/
theorem paddedDigits_succ {width : Nat} (positive : 0 < width) (value : Nat) :
    paddedDigits (width + 1) value =
      paddedDigits width (value / 10) ++ [(value % 10).digitChar] := by
  by_cases below : value < 10
  · have zeros : List.replicate width '0' = List.replicate (width - 1) '0' ++ ['0'] := by
      rw [← List.replicate_succ', Nat.sub_add_cancel positive]
    rw [Nat.div_eq_of_lt below, Nat.mod_eq_of_lt below, paddedDigits, paddedDigits, digitChars,
      digitChars, Nat.toDigits_of_lt_base below, Nat.toDigits_of_lt_base (by decide)]
    exact congrArg (fun front => front ++ [value.digitChar]) zeros
  · rw [paddedDigits, paddedDigits, digitChars, digitChars, Nat.toDigits_eq_if (by decide),
      if_neg below, List.length_append, List.length_singleton, Nat.add_sub_add_right,
      List.append_assoc]

/-- Two places hold the tens and the ones. -/
theorem paddedDigits_two {value : Nat} (below : value < 100) :
    paddedDigits 2 value = [(value / 10).digitChar, (value % 10).digitChar] := by
  rw [paddedDigits_succ (by decide), paddedDigits_one (by omega)]
  rfl

/-- Four places hold the thousands, the hundreds, the tens and the ones. -/
theorem paddedDigits_four {value : Nat} (below : value < 10000) :
    paddedDigits 4 value =
      [(value / 1000).digitChar, (value / 100 % 10).digitChar,
        (value / 10 % 10).digitChar, (value % 10).digitChar] := by
  have hundreds : value / 10 / 10 = value / 100 := by omega
  have thousands : value / 100 / 10 = value / 1000 := by omega
  rw [paddedDigits_succ (by decide), paddedDigits_succ (by decide),
    paddedDigits_two (by omega), hundreds, thousands]
  rfl

end Text
end RowFilter
