import Mathlib.Algebra.Field.Rat
import Mathlib.Tactic.FieldSimp
import Mathlib.Tactic.Ring
import RowFilter.Filter.Operand
import RowFilter.Proofs.Filter.Encoding
import RowFilter.Proofs.Filter.Refusal

/-!
# The decimals that tokens denote

Exactly the numerals whose exponents are within the limits are read as decimals.
Each is read as the number that it denotes, by the places of its digits, whatever
the number of the digits.  The text of a decimal is read as the same sign, the
same digits and the same exponent.
-/

namespace RowFilter
namespace Decimal

/-! ## The number of a numeral -/

/-- The number that digits after a point denote. -/
def fractionValue : List Nat → ℚ
  | [] => 0
  | digit :: rest => (digit + fractionValue rest) / 10

/-- The factor of a sign. -/
def signFactor (negative : Bool) : ℚ :=
  if negative then -1 else 1

/-- The number that a numeral denotes. -/
def Parts.value (parts : Parts) : ℚ :=
  signFactor parts.negative *
    (Text.digitsValue parts.whole + fractionValue parts.fraction) * 10 ^ parts.exponent

/-- The rational number that a decimal stands for. -/
def toRat? : Decimal → Option ℚ
  | finite negative coefficient exponent _ =>
      some (signFactor negative * coefficient * 10 ^ exponent)
  | _ => none

theorem digitsValue_append (left right : List Nat) :
    Text.digitsValue (left ++ right) =
      Text.digitsValue left * 10 ^ right.length + Text.digitsValue right := by
  induction right using List.reverseRecOn with
  | nil => simp [Text.digitsValue]
  | append_singleton right digit inductionHypothesis =>
      have last (digits : List Nat) :
          Text.digitsValue (digits ++ [digit]) = 10 * Text.digitsValue digits + digit := by
        rw [Text.digitsValue, List.foldl_append]
        rfl
      rw [← List.append_assoc, last, last, inductionHypothesis, List.length_append,
        List.length_singleton, pow_succ]
      ring

theorem fractionValue_mul_pow (digits : List Nat) :
    fractionValue digits * 10 ^ digits.length = Text.digitsValue digits := by
  induction digits with
  | nil => simp [fractionValue, Text.digitsValue]
  | cons digit rest inductionHypothesis =>
      have first : Text.digitsValue [digit] = digit := by simp [Text.digitsValue]
      rw [← List.singleton_append, digitsValue_append, first, List.singleton_append, fractionValue,
        List.length_cons, Nat.cast_add, ← inductionHypothesis]
      push_cast
      field_simp
      ring

/-- Nothing is rounded: the decimal of the parts is the number that the parts denote. -/
theorem Parts.toRat?_decimal (parts : Parts) (inRange : parts.IsInRange) :
    (parts.decimal inRange).toRat? = some parts.value := by
  have coefficient_eq : (parts.coefficient : ℚ) =
      (Text.digitsValue parts.whole + fractionValue parts.fraction) *
        10 ^ parts.fraction.length := by
    rw [coefficient, digitsValue_append, Nat.cast_add, ← fractionValue_mul_pow]
    push_cast
    ring
  have exponent_eq : (10 : ℚ) ^ parts.exponent =
      10 ^ parts.fraction.length * 10 ^ parts.lastExponent := by
    rw [← zpow_natCast, ← zpow_add₀ (by norm_num), lastExponent, add_sub_cancel]
  simp only [decimal, toRat?, value, coefficient_eq, exponent_eq]
  congr 1
  ring

end Decimal

/-! ## What is read -/

/-- A token is read as a decimal exactly when it spells one within the limits. -/
theorem coerce_decimal_eq_ok_iff {field token : String} {value : Value} :
    coerce field token .decimal = .ok value ↔
      ∃ parts, Decimal.Spells token.toList parts ∧ ∃ inRange : parts.IsInRange,
        value = .decimal (parts.decimal inRange) := by
  rw [coerce_eq_ok_iff, Kind.read?, Option.map_eq_some_iff]
  simp only [Decimal.readFinite?_eq_some_iff]
  constructor
  · rintro ⟨_, ⟨parts, spells, inRange, rfl⟩, rfl⟩
    exact ⟨parts, spells, inRange, rfl⟩
  · rintro ⟨parts, spells, inRange, rfl⟩
    exact ⟨_, ⟨parts, spells, inRange, rfl⟩, rfl⟩

/-- What a numeral is read as is the number that it denotes. -/
theorem toRat?_of_coerce
    {field token : String} {parts : Decimal.Parts} (spells : Decimal.Spells token.toList parts)
    {number : Decimal} (coerced : coerce field token .decimal = .ok (.decimal number)) :
    number.toRat? = some parts.value := by
  obtain ⟨_, spells', inRange, value_eq⟩ := coerce_decimal_eq_ok_iff.1 coerced
  cases spells.unique spells'
  cases value_eq
  exact parts.toRat?_decimal inRange

/-- A decimal is read back from the text under its kind, with its sign, digits and exponent. -/
theorem coerce_render_decimal (field : String) {number : Decimal} (finite : number.isFinite = true) :
    ∃ text, Operand.render .decimal (.item (.decimal number)) = .ok text ∧
      coerce field text .decimal = .ok (.decimal number) := by
  have read : Kind.read? .decimal (Value.decimal number).canonical = some (.decimal number) :=
    Kind.read?_canonical rfl finite
  exact ⟨number.text, rfl, (coerce_eq_ok_iff field).2 read⟩

/--
The tokens that are read as decimals are the numerals whose exponents are within
the limits, with ten ASCII digits and no blank or underscore in them.  Each is
read as the number that it denotes, whatever the number of its digits, and every
other token is an invalid value.  A decimal that is a number is read back from
its text with the same sign, digits and exponent.
-/
theorem coerce_decimal_iff (field token : String) :
    (∀ value, coerce field token .decimal = .ok value ↔
      ∃ parts, Decimal.Spells token.toList parts ∧ ∃ inRange : parts.IsInRange,
        value = .decimal (parts.decimal inRange)) ∧
    (∀ parts, Decimal.Spells token.toList parts →
      (∀ character ∈ token.toList, Decimal.IsNumeralChar character) ∧
      ∀ number, coerce field token .decimal = .ok (.decimal number) →
        number.toRat? = some parts.value) ∧
    (∀ character : Char, character.toNat < 128 → ∀ value,
      Text.digit? character = some value ↔ value < 10 ∧ character = value.digitChar) ∧
    (∀ error, coerce field token .decimal = .error error ↔
      (∀ parts, Decimal.Spells token.toList parts → ¬parts.IsInRange) ∧
        error = .invalidValue field .decimal token) ∧
    ∀ number : Decimal, number.isFinite = true →
      ∃ text, Operand.render .decimal (.item (.decimal number)) = .ok text ∧
        coerce field text .decimal = .ok (.decimal number) := by
  refine ⟨fun _ => coerce_decimal_eq_ok_iff,
    fun _ spells => ⟨spells.forall_mem, fun _ => toRat?_of_coerce spells⟩,
    fun _ ascii _ => Text.digit?_eq_some_iff_of_ascii ascii, fun error => ?_,
    fun _ => coerce_render_decimal field⟩
  rw [(described_coerce field .decimal token).eq_error_iff, TokenFault]
  refine and_congr_left fun _ => ?_
  constructor
  · intro refused parts spells inRange
    exact refused _ (coerce_decimal_eq_ok_iff.2 ⟨parts, spells, inRange, rfl⟩)
  · intro outside value coerced
    obtain ⟨parts, spells, inRange, -⟩ := coerce_decimal_eq_ok_iff.1 coerced
    exact outside parts spells inRange

example : coerce "rate" "-0.00E+5" .decimal = .ok (.decimal (.finite true 0 3 (by decide))) := by
  decide

end RowFilter
