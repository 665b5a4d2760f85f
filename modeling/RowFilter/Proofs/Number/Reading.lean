import RowFilter.Proofs.Number.Grammar
import RowFilter.Proofs.Text.Blank

/-!
# Numbers are read back

The text of an integer within the limits of filters denotes it.  The text of a
finite decimal is a numeral with the same sign, the same digits and the same
exponent, wherever the point stands and whether the exponent is written or not.
-/

namespace RowFilter

theorem areDigits_digitValues
    {digits : List Char} (areDigits : ∀ character ∈ digits, character.isDigit = true) :
    Decimal.AreDigits digits (Text.digitValues digits) := by
  rw [Decimal.AreDigits, Text.digitValues, List.forall₂_map_right_iff, List.forall₂_same]
  exact fun character member => Text.digit?_of_isDigit (areDigits character member)

theorem spellsDigits_digitChars (value : Nat) :
    SpellsDigits (Text.digitChars value) (Text.digitValues (Text.digitChars value)) :=
  ⟨Text.digitChars_ne_nil value, areDigits_digitValues fun _ => Text.isDigit_of_mem_digitChars⟩

/-! ## Integers -/

/-- A minus and the digits of its magnitude denote a negative integer. -/
theorem spellsInt_of_neg {number : Int} (negative : number < 0) :
    SpellsInt ('-' :: Text.digitChars number.natAbs)
      (Text.digitValues (Text.digitChars number.natAbs)) number := by
  have spells := SpellsInt.minus (spellsDigits_digitChars number.natAbs)
  rwa [Text.digitsValue_digitChars, Int.ofNat_natAbs_of_nonpos (Int.le_of_lt negative),
    Int.neg_neg] at spells

/-- The text of an integer denotes the integer. -/
theorem spellsInt_intChars (number : Int) :
    SpellsInt (Text.intChars number) (Text.digitValues (Text.digitChars number.natAbs))
      number := by
  rw [Text.intChars]
  split
  · next negative => exact spellsInt_of_neg negative
  · next nonnegative =>
      have spells := SpellsInt.unsigned (spellsDigits_digitChars number.natAbs)
      rwa [Text.digitsValue_digitChars, Int.natAbs_of_nonneg (Int.not_lt.1 nonnegative)] at spells

theorem dropFinalNewline_intChars (number : Int) :
    Text.dropFinalNewline (Text.intChars number) = Text.intChars number := by
  refine Text.dropFinalNewline_of_getLast?_ne fun final => ?_
  have stands := (spellsInt_intChars number).forall_mem '\n' (List.mem_of_getLast? final)
  exact absurd stands (by decide)

/-- An integer within the limits is what its text denotes. -/
theorem readInt?_intText
    {number : Int} (least : leastInt ≤ number) (greatest : number ≤ greatestInt) :
    readInt? (Text.intText number) = some number := by
  have nineteen : (Text.digitChars number.natAbs).length ≤ 19 := by
    have power : Nat.pow 10 19 = 10000000000000000000 := rfl
    rw [Text.length_digitChars_le_iff (by decide), power]
    unfold leastInt at least
    unfold greatestInt at greatest
    omega
  have short : (Text.digitValues (Text.digitChars number.natAbs)).length ≤ digitLimit := by
    rw [Text.digitValues, List.length_map]
    exact Nat.le_trans nineteen (by decide)
  rw [readInt?_eq_some_iff, Text.intText, String.toList_ofList, dropFinalNewline_intChars]
  exact ⟨⟨_, spellsInt_intChars number, short⟩, least, greatest⟩

/-- Integers that are read are within the limits. -/
theorem bounds_of_readInt? {token : String} {number : Int} (read : readInt? token = some number) :
    leastInt ≤ number ∧ number ≤ greatestInt := by
  obtain ⟨-, least, greatest⟩ := readInt?_eq_some_iff.1 read
  exact ⟨least, greatest⟩

/-- An integer beyond the limits is not read back from its text. -/
theorem readInt?_intText_eq_none
    {number : Int} (outside : ¬(leastInt ≤ number ∧ number ≤ greatestInt)) :
    readInt? (Text.intText number) = none := by
  rw [Option.eq_none_iff_forall_ne_some]
  intro found read
  have bounds := bounds_of_readInt? read
  rw [readInt?_eq_some_iff, Text.intText, String.toList_ofList, dropFinalNewline_intChars] at read
  obtain ⟨⟨_, spells, -⟩, -, -⟩ := read
  exact outside ((spellsInt_intChars number).unique spells ▸ bounds)

/-! ## Decimals -/

namespace Decimal

theorem spellsSign_signChars (negative : Bool) : SpellsSign (signChars negative) negative := by
  cases negative with
  | false => exact .absent
  | true => exact .minus

theorem spellsExponent_exponentChars (exponent : Int) :
    SpellsExponent (exponentChars exponent) exponent := by
  have spells : SpellsInt
      ((if exponent < 0 then '-' else '+') :: Text.digitChars exponent.natAbs)
      (Text.digitValues (Text.digitChars exponent.natAbs)) exponent := by
    split
    · next negative => exact spellsInt_of_neg negative
    · next nonnegative =>
        have spells := SpellsInt.plus (spellsDigits_digitChars exponent.natAbs)
        rwa [Text.digitsValue_digitChars, Int.natAbs_of_nonneg (Int.not_lt.1 nonnegative)]
          at spells
  exact .marked (.inr rfl) spells

/-- A point with the digits after it; without digits there is no point. -/
def fractionChars (fraction : List Char) : List Char :=
  if fraction = [] then [] else '.' :: fraction

theorem spellsPlaces_fractionChars
    {whole fraction : List Char}
    (areDigits : ∀ character ∈ whole ++ fraction, character.isDigit = true) :
    SpellsPlaces (whole ++ fractionChars fraction) (Text.digitValues whole)
      (Text.digitValues fraction) := by
  rw [List.forall_mem_append] at areDigits
  have wholeDigits := areDigits_digitValues areDigits.1
  rw [fractionChars]
  split
  · next none =>
      rw [none, List.append_nil]
      exact .whole wholeDigits
  · exact .pointed wholeDigits (areDigits_digitValues areDigits.2)

theorem exists_pointed_eq
    {digits : List Char}
    (nonempty : digits ≠ [])
    (areDigits : ∀ character ∈ digits, character.isDigit = true)
    (places : Int) :
    ∃ whole fraction, pointed digits places = whole ++ fractionChars fraction ∧
      whole ≠ [] ∧
      (∀ character ∈ whole ++ fraction, character.isDigit = true) ∧
      Text.digitsValue (Text.digitValues (whole ++ fraction)) =
        Text.digitsValue (Text.digitValues digits) ∧
      (fraction.length : Int) = max 0 (digits.length - places) := by
  have positive := List.length_pos_iff.2 nonempty
  rw [pointed]
  split
  · next before =>
      have zeros : ['0'] ++ (List.replicate places.natAbs '0' ++ digits) =
          List.replicate (places.natAbs + 1) '0' ++ digits := rfl
      refine ⟨['0'], List.replicate places.natAbs '0' ++ digits, ?_, by simp, ?_, ?_, ?_⟩
      · rw [fractionChars, if_neg (by simp [nonempty])]
        rfl
      · rw [zeros, List.forall_mem_append]
        exact ⟨fun _ => Text.isDigit_of_mem_zeros, areDigits⟩
      · rw [zeros, Text.digitsValue_zeros_append]
      · rw [List.length_append, List.length_replicate]
        omega
  · split
    · refine ⟨digits, [], by simp [fractionChars], nonempty, by simpa using areDigits, by simp, ?_⟩
      rw [List.length_nil]
      omega
    · have both := List.take_append_drop places.toNat digits
      refine ⟨digits.take places.toNat, digits.drop places.toNat, ?_, ?_, ?_, ?_, ?_⟩
      · have after : digits.drop places.toNat ≠ [] := by
          rw [Ne, List.drop_eq_nil_iff]
          omega
        rw [fractionChars, if_neg after]
      · rw [Ne, List.take_eq_nil_iff]
        rintro (none | empty)
        · omega
        · exact nonempty empty
      · rwa [both]
      · rw [both]
      · rw [List.length_drop]
        omega

/-- Digits with a point among them and an exponent behind them are a numeral of these digits. -/
theorem exists_spells_pointed
    (negative : Bool) (coefficient : Nat) (places : Int)
    {tail : List Char} {written : Int} (scaled : SpellsExponent tail written) :
    ∃ parts,
      Spells (signChars negative ++ (pointed (Text.digitChars coefficient) places ++ tail)) parts ∧
      parts.negative = negative ∧ parts.coefficient = coefficient ∧
      parts.lastExponent = written - max 0 (digitCount coefficient - places) := by
  obtain ⟨whole, fraction, shape, nonempty, areDigits, sameValue, length_eq⟩ :=
    exists_pointed_eq (Text.digitChars_ne_nil coefficient)
      (fun _ => Text.isDigit_of_mem_digitChars) places
  refine ⟨⟨negative, Text.digitValues whole, Text.digitValues fraction, written⟩, ?_, rfl, ?_, ?_⟩
  · rw [shape]
    refine .intro (spellsSign_signChars negative) (spellsPlaces_fractionChars areDigits) ?_ scaled
    exact fun none => nonempty (List.map_eq_nil_iff.1 none.1)
  · rw [Text.digitsValue_digitChars] at sameValue
    rwa [Parts.coefficient, Text.digitValues, Text.digitValues, ← List.map_append]
  · have sameLength : (Text.digitValues fraction).length = fraction.length := List.length_map _
    rw [Parts.lastExponent, sameLength, length_eq, digitCount]

/-- The text of a finite decimal is a numeral with the sign, the digits and the exponent. -/
theorem exists_spells_chars
    (negative : Bool)
    {coefficient : Nat}
    {exponent : Int}
    (inRange : InRange coefficient exponent) :
    ∃ parts, Spells (finite negative coefficient exponent inRange).chars parts ∧
      parts.negative = negative ∧ parts.coefficient = coefficient ∧
      parts.lastExponent = exponent := by
  rw [chars, unsignedChars]
  split
  · next positional =>
      obtain ⟨parts, spells, negative_eq, coefficient_eq, exponent_eq⟩ :=
        exists_spells_pointed negative coefficient (adjusted coefficient exponent + 1) .absent
      rw [List.append_nil] at spells
      refine ⟨parts, spells, negative_eq, coefficient_eq, ?_⟩
      rw [exponent_eq, adjusted]
      omega
  · obtain ⟨parts, spells, negative_eq, coefficient_eq, exponent_eq⟩ :=
      exists_spells_pointed negative coefficient 1
        (spellsExponent_exponentChars (adjusted coefficient exponent))
    have positive := List.length_pos_iff.2 (Text.digitChars_ne_nil coefficient)
    refine ⟨parts, spells, negative_eq, coefficient_eq, ?_⟩
    rw [exponent_eq, adjusted, digitCount]
    omega

/-- A finite decimal is what its text denotes, digit by digit. -/
theorem readFinite?_chars
    (negative : Bool)
    {coefficient : Nat}
    {exponent : Int}
    (inRange : InRange coefficient exponent) :
    readFinite? (finite negative coefficient exponent inRange).chars =
      some (.finite negative coefficient exponent inRange) := by
  obtain ⟨parts, spells, rfl, rfl, rfl⟩ := exists_spells_chars negative inRange
  exact readFinite?_eq_some_iff.2 ⟨parts, spells, inRange, rfl⟩

theorem isFinite_of_readFinite?
    {characters : List Char} {number : Decimal} (read : readFinite? characters = some number) :
    number.isFinite = true := by
  obtain ⟨parts, -, inRange, rfl⟩ := readFinite?_eq_some_iff.1 read
  rfl

end Decimal
end RowFilter
