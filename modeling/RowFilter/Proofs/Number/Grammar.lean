import RowFilter.Filter.Coercion
import RowFilter.Proofs.Pairs
import RowFilter.Proofs.Text.Digit

/-!
# The grammar of numerals

A numeral is digits of any script with at most one point among them, a sign in
front of them or not, and an exponent behind them or not; an integer has neither
a point nor an exponent.  The readers take a numeral apart from the left to the
right, and what they take are the parts that the grammar gives it.
-/

namespace RowFilter

/-! ## Digits -/

namespace Decimal

/-- Digits of any script, with their values. -/
abbrev AreDigits (word : List Char) (values : List Nat) : Prop :=
  List.Forall₂ (fun character value => Text.digit? character = some value) word values

namespace AreDigits

variable {word : List Char} {values : List Nat} (digits : AreDigits word values)

include digits

theorem forall_mem : ∀ character ∈ word, Text.isDigit character = true := by
  intro character member
  obtain ⟨value, -, found⟩ := exists_mem_of_forall₂ digits.flip member
  rw [Text.isDigit, found]
  rfl

/-- Digits are taken as far as they go. -/
theorem takeDigits_append {rest : List Char} (stops : takeDigits rest = ([], rest)) :
    takeDigits (word ++ rest) = (values, rest) := by
  induction digits with
  | nil => exact stops
  | cons digit _ inductionHypothesis =>
      rw [List.cons_append, takeDigits, digit, inductionHypothesis]

end AreDigits

theorem exists_areDigits_of_takeDigits
    {characters rest : List Char} {values : List Nat}
    (taken : takeDigits characters = (values, rest)) :
    ∃ word, characters = word ++ rest ∧ AreDigits word values := by
  induction characters generalizing values with
  | nil =>
      cases taken
      exact ⟨[], rfl, .nil⟩
  | cons character characters inductionHypothesis =>
      rw [takeDigits] at taken
      split at taken
      · next value digit =>
          cases taken
          obtain ⟨word, characters_eq, digits⟩ := inductionHypothesis rfl
          exact ⟨character :: word, congrArg _ characters_eq, .cons digit digits⟩
      · cases taken
        exact ⟨[], rfl, .nil⟩

theorem takeDigits_eq_nil_iff {characters : List Char} {values : List Nat} :
    takeDigits characters = (values, []) ↔ AreDigits characters values := by
  constructor
  · intro taken
    obtain ⟨word, rfl, digits⟩ := exists_areDigits_of_takeDigits taken
    rwa [List.append_nil]
  · intro digits
    have ends : takeDigits [] = ([], []) := rfl
    have taken := digits.takeDigits_append ends
    rwa [List.append_nil] at taken

/-- A digit of any script is no sign. -/
theorem takeSign_of_digit?
    {first : Char} {value : Nat} (digit : Text.digit? first = some value) (rest : List Char) :
    takeSign (first :: rest) = (false, first :: rest) := by
  unfold takeSign
  split
  · next equal =>
      cases equal
      cases digit
  · next equal =>
      cases equal
      cases digit
  · rfl

end Decimal

/-! ## Integers -/

/-- At least one decimal digit of any script, with the values of the digits. -/
structure SpellsDigits (word : List Char) (values : List Nat) : Prop where
  /-- There is a digit. -/
  nonempty : word ≠ []
  /-- Each character is a digit of its value. -/
  digits : List.Forall₂ (fun character value => Text.digit? character = some value) word values

/-- Digits, with a sign in front or not, and the integer that they denote. -/
inductive SpellsInt : List Char → List Nat → Int → Prop
  | unsigned {word : List Char} {values : List Nat} (digits : SpellsDigits word values) :
      SpellsInt word values (Text.digitsValue values)
  | plus {word : List Char} {values : List Nat} (digits : SpellsDigits word values) :
      SpellsInt ('+' :: word) values (Text.digitsValue values)
  | minus {word : List Char} {values : List Nat} (digits : SpellsDigits word values) :
      SpellsInt ('-' :: word) values (-Text.digitsValue values)

/-- Characters that denote an integer of filters. -/
structure DenotesInt (characters : List Char) (number : Int) : Prop where
  /-- The integer is spelled with no more digits than are read. -/
  spelled : ∃ values, SpellsInt characters values number ∧ values.length ≤ digitLimit
  /-- It is not too small. -/
  least : leastInt ≤ number
  /-- It is not too large. -/
  greatest : number ≤ greatestInt

theorem SpellsDigits.takeSign_eq
    {word : List Char} {values : List Nat} (spells : SpellsDigits word values) :
    Decimal.takeSign word = (false, word) := by
  obtain ⟨nonempty, digits⟩ := spells
  cases digits with
  | nil => exact absurd rfl nonempty
  | cons digit _ => exact Decimal.takeSign_of_digit? digit _

theorem spellsDigits_iff {word : List Char} {values : List Nat} :
    SpellsDigits word values ↔ Decimal.takeDigits word = (values, []) ∧ values ≠ [] := by
  rw [Decimal.takeDigits_eq_nil_iff]
  constructor
  · rintro ⟨nonempty, digits⟩
    refine ⟨digits, ?_⟩
    rintro rfl
    exact nonempty (List.forall₂_nil_right_iff.1 digits)
  · rintro ⟨digits, nonempty⟩
    refine ⟨?_, digits⟩
    rintro rfl
    exact nonempty (List.forall₂_nil_left_iff.1 digits)

/-- Integers are spelled by a sign that is taken and by digits up to the end. -/
theorem spellsInt_iff {characters : List Char} {values : List Nat} {number : Int} :
    SpellsInt characters values number ↔
      SpellsDigits (Decimal.takeSign characters).2 values ∧
        number =
          if (Decimal.takeSign characters).1 = true then -(Text.digitsValue values : Int)
          else Text.digitsValue values := by
  constructor
  · rintro (digits | digits | digits)
    · rw [digits.takeSign_eq]
      exact ⟨digits, rfl⟩
    · exact ⟨digits, rfl⟩
    · exact ⟨digits, rfl⟩
  · rintro ⟨digits, rfl⟩
    unfold Decimal.takeSign at digits ⊢
    split at digits
    · exact .minus digits
    · exact .plus digits
    · exact .unsigned digits

namespace SpellsInt

variable {characters : List Char} {values : List Nat} {number : Int}
variable (spells : SpellsInt characters values number)

include spells

theorem unique
    {values' : List Nat} {number' : Int} (spells' : SpellsInt characters values' number') :
    number = number' := by
  obtain ⟨digits, rfl⟩ := spellsInt_iff.1 spells
  obtain ⟨digits', rfl⟩ := spellsInt_iff.1 spells'
  cases (spellsDigits_iff.1 digits).1.symm.trans (spellsDigits_iff.1 digits').1
  rfl

theorem forall_mem :
    ∀ character ∈ characters,
      character = '+' ∨ character = '-' ∨ Text.isDigit character = true := by
  have digit {word : List Char} (digits : SpellsDigits word values) :
      ∀ character ∈ word, character = '+' ∨ character = '-' ∨ Text.isDigit character = true :=
    fun character member =>
      .inr (.inr (Decimal.AreDigits.forall_mem digits.digits character member))
  cases spells with
  | unsigned digits => exact digit digits
  | plus digits => exact List.forall_mem_cons.2 ⟨.inl rfl, digit digits⟩
  | minus digits => exact List.forall_mem_cons.2 ⟨.inr (.inl rfl), digit digits⟩

end SpellsInt

/-- An integer is read when the token denotes one, up to a line feed at its end. -/
theorem readInt?_eq_some_iff {token : String} {number : Int} :
    readInt? token = some number ↔ DenotesInt (Text.dropFinalNewline token.toList) number := by
  generalize characters_eq : Text.dropFinalNewline token.toList = characters
  have spells {values : List Nat} {number : Int} := @spellsInt_iff characters values number
  rw [readInt?, characters_eq]
  rcases signed : Decimal.takeSign characters with ⟨negative, unsigned⟩
  rcases taken : Decimal.takeDigits unsigned with ⟨digits, rest⟩
  simp only [signed, spellsDigits_iff, taken, Prod.mk.injEq] at spells
  simp only [taken]
  cases rest with
  | cons next rest =>
      refine iff_of_false (Option.some_ne_none number).symm ?_
      rintro ⟨⟨values, spelled, -⟩, -, -⟩
      cases (spells.1 spelled).1.1.2
  | nil =>
      dsimp only
      rw [Option.ite_none_left_eq_some, Option.ite_none_right_eq_some, Option.some_inj, not_or,
        Nat.not_lt]
      constructor
      · rintro ⟨⟨nonempty, short⟩, ⟨least, greatest⟩, rfl⟩
        exact ⟨⟨digits, spells.2 ⟨⟨⟨rfl, rfl⟩, nonempty⟩, rfl⟩, short⟩, least, greatest⟩
      · rintro ⟨⟨values, spelled, short⟩, least, greatest⟩
        obtain ⟨⟨⟨rfl, -⟩, nonempty⟩, rfl⟩ := spells.1 spelled
        exact ⟨⟨nonempty, short⟩, ⟨least, greatest⟩, rfl⟩

/-! ## Decimals -/

namespace Decimal

/-- What a numeral is made of. -/
structure Parts where
  /-- Whether the sign is a minus. -/
  negative : Bool
  /-- The digits before the point. -/
  whole : List Nat
  /-- The digits after the point. -/
  fraction : List Nat
  /-- The exponent as it is written. -/
  exponent : Int

/-- A sign that may be absent. -/
inductive SpellsSign : List Char → Bool → Prop
  | absent : SpellsSign [] false
  | plus : SpellsSign ['+'] false
  | minus : SpellsSign ['-'] true

/-- Digits with at most one point among them: those before it and those after it. -/
inductive SpellsPlaces : List Char → List Nat → List Nat → Prop
  | whole {word : List Char} {values : List Nat} (digits : AreDigits word values) :
      SpellsPlaces word values []
  | pointed {before after : List Char} {whole fraction : List Nat}
      (wholeDigits : AreDigits before whole) (fractionDigits : AreDigits after fraction) :
      SpellsPlaces (before ++ '.' :: after) whole fraction

/-- An exponent behind its mark; an absent one is zero. -/
inductive SpellsExponent : List Char → Int → Prop
  | absent : SpellsExponent [] 0
  | marked {mark : Char} (isMark : mark = 'e' ∨ mark = 'E')
      {word : List Char} {values : List Nat} {exponent : Int}
      (spells : SpellsInt word values exponent) :
      SpellsExponent (mark :: word) exponent

/-- Characters that are a numeral with the given parts. -/
inductive Spells : List Char → Parts → Prop
  | intro {sign places tail : List Char} {parts : Parts}
      (signed : SpellsSign sign parts.negative)
      (placed : SpellsPlaces places parts.whole parts.fraction)
      (nonempty : ¬(parts.whole = [] ∧ parts.fraction = []))
      (scaled : SpellsExponent tail parts.exponent) :
      Spells (sign ++ (places ++ tail)) parts

namespace Parts

variable (parts : Parts)

/-- The number that all the digits denote without a point. -/
def coefficient : Nat :=
  Text.digitsValue (parts.whole ++ parts.fraction)

/-- The exponent of the last digit. -/
def lastExponent : Int :=
  parts.exponent - parts.fraction.length

/-- The exponents of the last and of the leading digit are within the limits. -/
def IsInRange : Prop :=
  InRange parts.coefficient parts.lastExponent

/-- The decimal with the same sign and digits, whose exponent is that of the last digit. -/
def decimal (inRange : parts.IsInRange) : Decimal :=
  .finite parts.negative parts.coefficient parts.lastExponent inRange

end Parts

/-! ## What is taken of a numeral -/

theorem SpellsSign.takeSign_append
    {sign rest : List Char} {negative : Bool} (signed : SpellsSign sign negative)
    (unsigned : takeSign rest = (false, rest)) :
    takeSign (sign ++ rest) = (negative, rest) := by
  cases signed with
  | absent => exact unsigned
  | plus => rfl
  | minus => rfl

theorem exists_spellsSign_of_takeSign
    {characters rest : List Char} {negative : Bool}
    (taken : takeSign characters = (negative, rest)) :
    ∃ sign, characters = sign ++ rest ∧ SpellsSign sign negative := by
  unfold takeSign at taken
  split at taken <;> cases taken
  · exact ⟨['-'], rfl, .minus⟩
  · exact ⟨['+'], rfl, .plus⟩
  · exact ⟨[], rfl, .absent⟩

/-- The places of a numeral begin with no sign, if there are any digits. -/
theorem SpellsPlaces.takeSign_append
    {places : List Char} {whole fraction : List Nat} (placed : SpellsPlaces places whole fraction)
    (nonempty : ¬(whole = [] ∧ fraction = [])) (rest : List Char) :
    takeSign (places ++ rest) = (false, places ++ rest) := by
  cases placed with
  | whole digits =>
      cases digits with
      | nil => exact absurd ⟨rfl, rfl⟩ nonempty
      | cons digit _ => exact takeSign_of_digit? digit _
  | pointed wholeDigits _ =>
      cases wholeDigits with
      | nil => rfl
      | cons digit _ => exact takeSign_of_digit? digit _

/-- An exponent is read exactly when it is spelled. -/
theorem readExponent?_eq_some_iff {characters : List Char} {exponent : Int} :
    readExponent? characters = some exponent ↔ SpellsExponent characters exponent := by
  cases characters with
  | nil =>
      constructor
      · rintro ⟨⟩
        exact .absent
      · rintro ⟨⟩
        rfl
  | cons mark rest =>
      have marked : SpellsExponent (mark :: rest) exponent ↔
          (mark = 'e' ∨ mark = 'E') ∧ ∃ values, SpellsInt rest values exponent :=
        ⟨fun | .marked isMark spells => ⟨isMark, _, spells⟩,
          fun ⟨isMark, _, spells⟩ => .marked isMark spells⟩
      simp only [marked, spellsInt_iff, spellsDigits_iff, readExponent?, Bool.or_eq_true,
        decide_eq_true_eq, Option.ite_none_right_eq_some]
      refine and_congr_right fun _ => ?_
      rcases takeSign rest with ⟨negative, digits⟩
      rcases takeDigits digits with ⟨values, remainder⟩
      cases values <;> cases remainder <;> simp [eq_comm]

namespace SpellsExponent

variable {tail : List Char} {exponent : Int} (scaled : SpellsExponent tail exponent)

include scaled

/-- No digit and no point begins an exponent. -/
theorem takeDigits_eq : takeDigits tail = ([], tail) := by
  cases scaled with
  | absent => rfl
  | marked isMark _ => rcases isMark with rfl | rfl <;> rfl

theorem takeFraction_eq : takeFraction tail = ([], tail) := by
  cases scaled with
  | absent => rfl
  | marked isMark _ => rcases isMark with rfl | rfl <;> rfl

end SpellsExponent

/-- The digits before the point are taken, and then those after it. -/
theorem spellsPlaces_append_iff
    {characters tail : List Char} {exponent : Int} (scaled : SpellsExponent tail exponent)
    {whole fraction : List Nat} :
    (∃ places, characters = places ++ tail ∧ SpellsPlaces places whole fraction) ↔
      ∃ rest, takeDigits characters = (whole, rest) ∧ takeFraction rest = (fraction, tail) := by
  constructor
  · rintro ⟨places, rfl, placed⟩
    cases placed with
    | whole digits =>
        exact ⟨tail, digits.takeDigits_append scaled.takeDigits_eq, scaled.takeFraction_eq⟩
    | @pointed before after _ _ wholeDigits fractionDigits =>
        refine ⟨'.' :: (after ++ tail), ?_, fractionDigits.takeDigits_append scaled.takeDigits_eq⟩
        rw [List.append_assoc, List.cons_append]
        exact wholeDigits.takeDigits_append rfl
  · rintro ⟨rest, wholeTaken, fractionTaken⟩
    obtain ⟨before, rfl, wholeDigits⟩ := exists_areDigits_of_takeDigits wholeTaken
    unfold takeFraction at fractionTaken
    split at fractionTaken
    · obtain ⟨after, rfl, fractionDigits⟩ := exists_areDigits_of_takeDigits fractionTaken
      exact ⟨before ++ '.' :: after, by simp, .pointed wholeDigits fractionDigits⟩
    · cases fractionTaken
      exact ⟨before, rfl, .whole wholeDigits⟩

/-- The parts of a numeral are what is taken of it from the left to the right. -/
theorem spells_iff {characters : List Char} {parts : Parts} :
    Spells characters parts ↔
      ∃ unsigned rest tail,
        takeSign characters = (parts.negative, unsigned) ∧
        takeDigits unsigned = (parts.whole, rest) ∧
        takeFraction rest = (parts.fraction, tail) ∧
        ¬(parts.whole = [] ∧ parts.fraction = []) ∧
        readExponent? tail = some parts.exponent := by
  constructor
  · rintro ⟨signed, placed, nonempty, scaled⟩
    obtain ⟨rest, wholeTaken, fractionTaken⟩ :=
      (spellsPlaces_append_iff scaled).1 ⟨_, rfl, placed⟩
    exact ⟨_, rest, _, signed.takeSign_append (placed.takeSign_append nonempty _), wholeTaken,
      fractionTaken, nonempty, readExponent?_eq_some_iff.2 scaled⟩
  · rintro ⟨_, rest, tail, signTaken, wholeTaken, fractionTaken, nonempty, exponentRead⟩
    obtain ⟨sign, rfl, signed⟩ := exists_spellsSign_of_takeSign signTaken
    have scaled := readExponent?_eq_some_iff.1 exponentRead
    obtain ⟨places, rfl, placed⟩ :=
      (spellsPlaces_append_iff scaled).2 ⟨rest, wholeTaken, fractionTaken⟩
    exact .intro signed placed nonempty scaled

/-- A decimal is read from a numeral whose exponents are within the limits, part by part. -/
theorem readFinite?_eq_some_iff {characters : List Char} {number : Decimal} :
    readFinite? characters = some number ↔
      ∃ parts, Spells characters parts ∧ ∃ inRange : parts.IsInRange,
        number = parts.decimal inRange := by
  simp only [spells_iff, readFinite?]
  rcases signTaken : takeSign characters with ⟨negative, unsigned⟩
  rcases wholeTaken : takeDigits unsigned with ⟨whole, rest⟩
  rcases fractionTaken : takeFraction rest with ⟨fraction, tail⟩
  dsimp only
  constructor
  · intro read
    rw [Option.ite_none_left_eq_some] at read
    obtain ⟨nonempty, read⟩ := read
    split at read
    · cases read
    · next written exponentRead =>
        split at read
        · next inRange =>
            cases read
            exact ⟨⟨negative, whole, fraction, written⟩,
              ⟨unsigned, rest, tail, rfl, wholeTaken, fractionTaken, nonempty, exponentRead⟩,
              inRange, rfl⟩
        · cases read
  · rintro ⟨⟨_, _, _, written⟩, ⟨_, _, _, signTaken', wholeTaken', fractionTaken', nonempty,
      exponentRead⟩, inRange, rfl⟩
    cases signTaken'
    cases wholeTaken.symm.trans wholeTaken'
    cases fractionTaken.symm.trans fractionTaken'
    rw [if_neg nonempty, exponentRead]
    exact dif_pos inRange

/-- A text spells one decimal at most. -/
theorem Spells.unique
    {characters : List Char} {parts parts' : Parts}
    (spells : Spells characters parts) (spells' : Spells characters parts') :
    parts = parts' := by
  obtain ⟨unsigned, rest, tail, signed, whole, fraction, -, scaled⟩ := spells_iff.1 spells
  obtain ⟨_, _, _, signed', whole', fraction', -, scaled'⟩ := spells_iff.1 spells'
  cases parts
  cases parts'
  cases signed.symm.trans signed'
  cases whole.symm.trans whole'
  cases fraction.symm.trans fraction'
  cases scaled.symm.trans scaled'
  rfl

/-! ## What stands in a numeral -/

/-- A character that may stand in a numeral. -/
def IsNumeralChar (character : Char) : Prop :=
  character ∈ ['+', '-', '.', 'e', 'E'] ∨ Text.isDigit character = true

theorem SpellsPlaces.forall_mem
    {places : List Char} {whole fraction : List Nat}
    (placed : SpellsPlaces places whole fraction) :
    ∀ character ∈ places, IsNumeralChar character := by
  have digit {word : List Char} {values : List Nat} (digits : AreDigits word values) :
      ∀ character ∈ word, IsNumeralChar character :=
    fun character member => .inr (digits.forall_mem character member)
  cases placed with
  | whole digits => exact digit digits
  | pointed wholeDigits fractionDigits =>
      rw [List.forall_mem_append, List.forall_mem_cons]
      exact ⟨digit wholeDigits, .inl (by decide), digit fractionDigits⟩

theorem SpellsExponent.forall_mem
    {tail : List Char} {exponent : Int} (scaled : SpellsExponent tail exponent) :
    ∀ character ∈ tail, IsNumeralChar character := by
  cases scaled with
  | absent => simp
  | marked isMark written =>
      rw [List.forall_mem_cons]
      refine ⟨.inl (by rcases isMark with rfl | rfl <;> decide), fun character member => ?_⟩
      rcases written.forall_mem character member with rfl | rfl | digit
      · exact .inl (by decide)
      · exact .inl (by decide)
      · exact .inr digit

/-- Nothing but signs, digits, a point and a mark stands in a numeral. -/
theorem Spells.forall_mem
    {characters : List Char} {parts : Parts} (spells : Spells characters parts) :
    ∀ character ∈ characters, IsNumeralChar character := by
  obtain ⟨signed, placed, -, scaled⟩ := spells
  rw [List.forall_mem_append, List.forall_mem_append]
  refine ⟨?_, placed.forall_mem, scaled.forall_mem⟩
  generalize parts.negative = negative at signed
  cases signed <;> simp [IsNumeralChar]

end Decimal
end RowFilter
