import Mathlib.Data.List.Forall2
import RowFilter.Filter.Text
import RowFilter.Proofs.Calendar.Reading
import RowFilter.Proofs.Number.Reading

/-!
# Values and their canonical texts

The canonical text of a value reads back under the kind of the value, provided
that an integer is within the limits and a decimal is a number.  Only the text
of a text can hold a separator.
-/

namespace RowFilter

/-! ## Sameness -/

theorem Decimal.same_self {number : Decimal} (finite : number.isFinite = true) :
    number.same number = true := by
  cases number with
  | finite negative coefficient exponent inRange =>
      rw [same, samePlaces]
      split
      · next zero => simp [zero]
      · simp
  | infinite negative => simp [same]
  | nan negative => cases finite

theorem Decimal.isFinite_of_same
    {left right : Decimal} (same : left.same right = true) (finite : left.isFinite = true) :
    right.isFinite = true := by
  cases left with
  | finite negative coefficient exponent inRange =>
      cases right with
      | finite => rfl
      | infinite => cases same
      | nan => cases same
  | infinite => cases finite
  | nan => cases finite

namespace Value

/-- A value that reading can give: integers within the limits, decimals that are numbers. -/
def IsReadable : Value → Prop
  | int number => leastInt ≤ number ∧ number ≤ greatestInt
  | decimal number => number.isFinite = true
  | _ => True

/-- A readable value is the same as itself. -/
theorem same_self {value : Value} (readable : value.IsReadable) : value.same value = true := by
  cases value with
  | decimal number => exact Decimal.same_self readable
  | _ => simp [same, integer?]

theorem eq_text_of_same {value : Value} {content : String}
    (same : value.same (.text content) = true) :
    value = .text content := by
  cases value <;> simp_all [Value.same, integer?]

/-- Sameness within a kind respects what reading can give. -/
theorem IsReadable.of_same
    {left right : Value} (readable : left.IsReadable) (same : left.same right = true)
    (kind_eq : left.kind = right.kind) :
    right.IsReadable := by
  cases left with
  | int number =>
      cases right with
      | int number' =>
          have equal : number = number' := by simpa [Value.same, integer?] using same
          exact equal ▸ readable
      | _ => cases kind_eq
  | decimal number =>
      cases right with
      | decimal number' => exact Decimal.isFinite_of_same same readable
      | _ => cases kind_eq
  | _ =>
      cases right with
      | int => cases kind_eq
      | decimal => cases kind_eq
      | _ => trivial

end Value

/-- Lists of values are the same when their members are, pair by pair. -/
theorem sameValues_iff_forall₂ {lefts rights : List Value} :
    sameValues lefts rights = true ↔
      List.Forall₂ (fun left right => left.same right = true) lefts rights := by
  induction lefts generalizing rights with
  | nil => cases rights <;> simp [sameValues]
  | cons left lefts inductionHypothesis =>
      cases rights with
      | nil => simp [sameValues]
      | cons right rights => simp [sameValues, inductionHypothesis]

/-! ## Reading canonical texts -/

theorem readBool?_canonical (truth : Bool) :
    readBool? (Value.bool truth).canonical = some truth := by
  cases truth <;> decide

/-- A readable value is read back from its canonical text. -/
theorem Kind.read?_canonical
    {kind : Kind} {value : Value} (kind_eq : value.kind = some kind)
    (readable : value.IsReadable) :
    kind.read? value.canonical = some value := by
  cases value with
  | null => cases kind_eq
  | text content =>
      cases kind_eq
      rfl
  | bool truth =>
      cases kind_eq
      rw [Kind.read?, readBool?_canonical, Option.map_some]
  | date day =>
      cases kind_eq
      rw [Kind.read?, Value.canonical, Date.text, String.toList_ofList, day.read?_chars,
        Option.map_some]
  | dateTime moment =>
      cases kind_eq
      rw [Kind.read?, Value.canonical, DateTime.text, String.toList_ofList,
        moment.read?_charsWith, Option.map_some]
  | int number =>
      cases kind_eq
      rw [Kind.read?, Value.canonical, readInt?_intText readable.1 readable.2, Option.map_some]
  | decimal number =>
      cases kind_eq
      cases number with
      | finite negative coefficient exponent inRange =>
          rw [Kind.read?, Value.canonical, Decimal.text, String.toList_ofList,
            Decimal.readFinite?_chars, Option.map_some]
      | infinite => cases readable
      | nan => cases readable

/-- What reading cannot give is not read from its canonical text either. -/
theorem Kind.read?_canonical_eq_none
    {kind : Kind} {value : Value} (kind_eq : value.kind = some kind)
    (unreadable : ¬value.IsReadable) :
    kind.read? value.canonical = none := by
  cases value with
  | int number =>
      cases kind_eq
      rw [Kind.read?, Value.canonical, readInt?_intText_eq_none unreadable, Option.map_none]
  | decimal number =>
      cases kind_eq
      rw [Kind.read?, Value.canonical, Decimal.text, String.toList_ofList]
      cases number with
      | finite => exact absurd rfl unreadable
      | infinite negative => cases negative <;> rfl
      | nan negative => cases negative <;> rfl
  | _ => exact absurd trivial unreadable

/-- Whatever is read is readable. -/
theorem Kind.isReadable_of_read?
    {kind : Kind} {token : String} {value : Value} (read : kind.read? token = some value) :
    value.IsReadable := by
  cases kind <;> simp only [Kind.read?, Option.map_eq_some_iff, Option.some.injEq] at read
  case text =>
    subst read
    trivial
  case int =>
    obtain ⟨number, found, rfl⟩ := read
    exact bounds_of_readInt? found
  case decimal =>
    obtain ⟨number, found, rfl⟩ := read
    exact Decimal.isFinite_of_readFinite? found
  all_goals
    obtain ⟨content, _, rfl⟩ := read
    trivial

/-- A text is read as it stands. -/
theorem Kind.eq_of_read?_eq_text
    {kind : Kind} {token content : String} (read : kind.read? token = some (.text content)) :
    token = content := by
  cases kind <;> simp_all [Kind.read?]

/-! ## Separators in canonical texts -/

/-- A character that stands for itself inside a filter. -/
def IsPlain (character : Char) : Prop :=
  character ≠ segmentSeparator ∧ character ≠ valueSeparator

instance (character : Char) : Decidable (IsPlain character) :=
  inferInstanceAs (Decidable (_ ∧ _))

theorem isPlain_of_all
    {characters : List Char} (all : characters.all (fun character => IsPlain character) = true) :
    ∀ character ∈ characters, IsPlain character := by
  simpa using all

theorem isPlain_of_isDigit {character : Char} (isDigit : character.isDigit = true) :
    IsPlain character := by
  constructor <;> rintro rfl <;> exact absurd isDigit (by decide)

theorem isPlain_of_mem_paddedDigits
    {width value : Nat} {character : Char} (member : character ∈ Text.paddedDigits width value) :
    IsPlain character :=
  isPlain_of_isDigit (Text.isDigit_of_mem_paddedDigits member)

theorem intChars_eq (number : Int) :
    Text.intChars number =
      Decimal.signChars (decide (number < 0)) ++ Text.digitChars number.natAbs := by
  by_cases negative : number < 0
  · rw [Text.intChars, if_pos negative, decide_eq_true negative]
    rfl
  · rw [Text.intChars, if_neg negative, decide_eq_false negative]
    rfl

theorem isPlain_of_mem_signChars {negative : Bool} {character : Char}
    (member : character ∈ Decimal.signChars negative) :
    IsPlain character := by
  cases negative with
  | true =>
      rw [List.mem_singleton.1 member]
      decide
  | false => exact absurd member List.not_mem_nil

namespace Date

theorem isPlain_of_mem_chars (date : Date) : ∀ character ∈ date.chars, IsPlain character := by
  have dash : IsPlain '-' := by decide
  rw [chars]
  simp only [List.forall_mem_append, List.forall_mem_cons]
  exact ⟨fun _ => isPlain_of_mem_paddedDigits, dash, fun _ => isPlain_of_mem_paddedDigits, dash,
    fun _ => isPlain_of_mem_paddedDigits⟩

end Date

namespace DateTime

/-- No character of a date-time separates segments or values. -/
theorem isPlain_of_mem_charsWith (moment : DateTime) :
    ∀ character ∈ moment.charsWith 'T', IsPlain character := by
  have colon : IsPlain ':' := by decide
  have fraction : ∀ character ∈
      (if moment.microsecond = 0 then [] else '.' :: Text.paddedDigits 6 moment.microsecond),
      IsPlain character := by
    split
    · simp
    · exact List.forall_mem_cons.2 ⟨by decide, fun _ => isPlain_of_mem_paddedDigits⟩
  rw [charsWith, timeChars]
  simp only [List.forall_mem_append, List.forall_mem_cons]
  exact ⟨moment.date.isPlain_of_mem_chars, by decide, fun _ => isPlain_of_mem_paddedDigits, colon,
    fun _ => isPlain_of_mem_paddedDigits, colon, fun _ => isPlain_of_mem_paddedDigits, fraction⟩

end DateTime

namespace Decimal

theorem isPlain_of_mem_exponentChars (exponent : Int) :
    ∀ character ∈ exponentChars exponent, IsPlain character := by
  have sign : IsPlain (if exponent < 0 then '-' else '+') := by
    split <;> decide
  rw [exponentChars]
  simp only [List.forall_mem_cons]
  exact ⟨by decide, sign,
    fun _ member => isPlain_of_isDigit (Text.isDigit_of_mem_digitChars member)⟩

theorem isPlain_of_mem_pointed
    {digits : List Char} (nonempty : digits ≠ [])
    (areDigits : ∀ character ∈ digits, character.isDigit = true) (places : Int) :
    ∀ character ∈ pointed digits places, IsPlain character := by
  obtain ⟨whole, fraction, shape, _, allDigits, _⟩ := exists_pointed_eq nonempty areDigits places
  rw [List.forall_mem_append] at allDigits
  rw [shape, List.forall_mem_append, fractionChars]
  refine ⟨fun character member => isPlain_of_isDigit (allDigits.1 character member), ?_⟩
  split
  · simp
  · exact List.forall_mem_cons.2
      ⟨by decide, fun character member => isPlain_of_isDigit (allDigits.2 character member)⟩

theorem isPlain_of_mem_chars (number : Decimal) :
    ∀ character ∈ number.chars, IsPlain character := by
  cases number with
  | finite negative coefficient exponent inRange =>
      have nonempty := Text.digitChars_ne_nil coefficient
      have areDigits : ∀ character ∈ Text.digitChars coefficient, character.isDigit = true :=
        fun _ => Text.isDigit_of_mem_digitChars
      rw [chars, List.forall_mem_append, unsignedChars]
      refine ⟨fun _ => isPlain_of_mem_signChars, ?_⟩
      split
      · exact isPlain_of_mem_pointed nonempty areDigits _
      · rw [List.forall_mem_append]
        exact ⟨isPlain_of_mem_pointed nonempty areDigits _, isPlain_of_mem_exponentChars _⟩
  | infinite negative =>
      rw [chars, List.forall_mem_append]
      exact ⟨fun _ => isPlain_of_mem_signChars, isPlain_of_all (by decide)⟩
  | nan negative =>
      rw [chars, List.forall_mem_append]
      exact ⟨fun _ => isPlain_of_mem_signChars, isPlain_of_all (by decide)⟩

end Decimal

/-- Only texts can bring separators into a canonical text. -/
theorem Value.isPlain_of_mem_canonical
    (value : Value) (notText : ∀ content, value ≠ .text content) :
    ∀ character ∈ value.canonical.toList, IsPlain character := by
  cases value with
  | null => exact isPlain_of_all (by decide)
  | text content => exact absurd rfl (notText content)
  | bool truth => cases truth <;> exact isPlain_of_all (by decide)
  | date day =>
      rw [canonical, Date.text, String.toList_ofList]
      exact day.isPlain_of_mem_chars
  | dateTime moment =>
      rw [canonical, DateTime.text, String.toList_ofList]
      exact moment.isPlain_of_mem_charsWith
  | int number =>
      rw [canonical, Text.intText, String.toList_ofList, intChars_eq, List.forall_mem_append]
      exact ⟨fun _ => isPlain_of_mem_signChars,
        fun _ member => isPlain_of_isDigit (Text.isDigit_of_mem_digitChars member)⟩
  | decimal number =>
      rw [canonical, Decimal.text, String.toList_ofList]
      exact number.isPlain_of_mem_chars

/-- A separator in the canonical text of a value is one in the value, which is a text. -/
theorem Value.exists_text_of_mem_canonical
    {value : Value} {character : Char} (member : character ∈ value.canonical.toList)
    (separates : ¬IsPlain character) :
    ∃ content, value = .text content ∧ character ∈ content.toList := by
  by_cases isText : ∃ content, value = .text content
  · obtain ⟨content, rfl⟩ := isText
    exact ⟨content, rfl, member⟩
  · rw [not_exists] at isText
    exact absurd (value.isPlain_of_mem_canonical isText character member) separates

end RowFilter
