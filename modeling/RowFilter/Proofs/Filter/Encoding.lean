import RowFilter.Proofs.Filter.Reading
import RowFilter.Proofs.Filter.Value
import RowFilter.Proofs.Pairs

/-!
# Which filters survive their text

Reading the text of a filter gives the filter back exactly when no separator
stands where it cannot be told from one that separates, when a membership has a
value, and when every value is one that reading can give.  Whatever is read
from any text is such a filter.
-/

namespace RowFilter
namespace Filter

/-- The filters that their text denotes. -/
structure IsEncodable (filter : Filter) : Prop where
  /-- The field has no separator of segments. -/
  field : segmentSeparator ∉ filter.field.toList
  /-- No text has a separator of segments. -/
  text : ∀ content, .text content ∈ filter.items → segmentSeparator ∉ content.toList
  /-- A membership has values, and no text among them has a separator of values. -/
  among : filter.operation = .among → filter.items ≠ [] ∧
    ∀ content, .text content ∈ filter.items → valueSeparator ∉ content.toList
  /-- Integers are within the limits. -/
  int : ∀ number, .int number ∈ filter.items → leastInt ≤ number ∧ number ≤ greatestInt
  /-- Decimals are numbers. -/
  decimal : ∀ number, .decimal number ∈ filter.items → number.isFinite = true

namespace IsEncodable

variable {filter : Filter}

theorem isReadable (encodable : filter.IsEncodable) :
    ∀ item ∈ filter.items, item.IsReadable := by
  intro item member
  cases item with
  | int number => exact encodable.int number member
  | decimal number => exact encodable.decimal number member
  | _ => trivial

/-! ## Writing and reading back -/

theorem segmentSeparator_notMem_canonical (encodable : filter.IsEncodable) :
    ∀ item ∈ filter.items, segmentSeparator ∉ item.canonical.toList := by
  intro item member separator
  obtain ⟨content, rfl, here⟩ := Value.exists_text_of_mem_canonical separator (by decide)
  exact encodable.text content member here

theorem valueSeparator_notMem_canonical
    (encodable : filter.IsEncodable) (among : filter.operation = .among) :
    ∀ item ∈ filter.items, valueSeparator ∉ item.canonical.toList := by
  intro item member separator
  obtain ⟨content, rfl, here⟩ := Value.exists_text_of_mem_canonical separator (by decide)
  exact (encodable.among among).2 content member here

/-- The value of an encodable filter is written without a separator of segments. -/
theorem segmentSeparator_notMem_valueText (encodable : filter.IsEncodable) :
    segmentSeparator ∉ filter.valueText.toList := by
  intro separator
  rcases Text.mem_join separator with same | ⟨text, member, here⟩
  · exact absurd same (by decide)
  · obtain ⟨item, present, rfl⟩ := List.mem_map.1 member
    exact encodable.segmentSeparator_notMem_canonical item present here

end IsEncodable
end Filter

namespace Filter

theorem segmentSeparator_notMem_operation_name (operation : Operation) :
    segmentSeparator ∉ operation.name.toList := by
  have each : ∀ operation ∈ Operation.all, segmentSeparator ∉ operation.name.toList := by decide
  exact each operation operation.mem_all

theorem segmentSeparator_notMem_kind_name (kind : Kind) :
    segmentSeparator ∉ kind.name.toList := by
  cases kind <;> decide

theorem kind_name_ne_empty (kind : Kind) : kind.name ≠ "" := by
  cases kind <;> decide

/-- Four segments without a separator, of which the last is not empty, are those of their text. -/
theorem segments_joinSegments
    {field token content kindToken : String} (last : kindToken ≠ "")
    (free : ∀ part ∈ [field, token, content, kindToken], segmentSeparator ∉ part.toList) :
    segments (joinSegments [field, token, content, kindToken]) =
      [field, token, content, kindToken] := by
  rw [segments, joinSegments, Text.split_join (by simp) free]
  exact dropEmptyEnd_append_singleton [field, token, content] last

/-- The segments of the text of a filter are its field, its operation, its values and its kind. -/
theorem segments_encode {filter : Filter} (encodable : filter.IsEncodable) :
    segments filter.encode =
      [filter.field, filter.operation.name, filter.valueText, filter.kind.name] := by
  refine segments_joinSegments (kind_name_ne_empty filter.kind) ?_
  simp only [List.forall_mem_cons]
  exact ⟨encodable.field, segmentSeparator_notMem_operation_name _,
    encodable.segmentSeparator_notMem_valueText, segmentSeparator_notMem_kind_name _, by simp⟩

/-- An operation is read back from its name. -/
theorem readOperation_name (operation : Operation) :
    readOperation operation.name = .ok operation := by
  have each : ∀ operation ∈ Operation.all, readOperation operation.name = .ok operation := by
    decide
  exact each operation operation.mem_all

/-- A kind is read back from its name. -/
theorem readKind_name (kind : Kind) : readKind (some kind.name) = .ok kind := by
  cases kind <;> rfl

end Filter

/-- The values of a condition are what their canonical texts denote, separated for a membership. -/
theorem contentDenotes_join
    {kind : Kind} {condition : Condition}
    (kinds : ∀ item ∈ condition.items, item.kind = some kind)
    (readable : ∀ item ∈ condition.items, item.IsReadable)
    (separable : condition.operation = .among → condition.items ≠ [] ∧
      ∀ item ∈ condition.items, valueSeparator ∉ item.canonical.toList) :
    ContentDenotes kind (Text.join valueSeparator (condition.items.map Value.canonical))
      condition.operation condition := by
  have read : ∀ item ∈ condition.items, kind.read? item.canonical = some item :=
    fun item member => Kind.read?_canonical (kinds item member) (readable item member)
  cases condition with
  | test asked item =>
      refine .test ?_
      rw [Condition.items, List.map_singleton, Text.join_singleton]
      exact read item List.mem_cons_self
  | among items =>
      obtain ⟨nonempty, absent⟩ := separable rfl
      replace nonempty : items ≠ [] := nonempty
      have clean : ∀ text ∈ items.map Value.canonical, valueSeparator ∉ text.toList := by
        intro text member
        obtain ⟨item, present, rfl⟩ := List.mem_map.1 member
        exact absent item present
      refine .among ?_
      rw [Condition.items, Text.split_join (by simpa using nonempty) clean,
        List.forall₂_map_left_iff, List.forall₂_same]
      exact read

/-- An encodable filter is read back from its text. -/
theorem parse_encode {filter : Filter} (encodable : filter.IsEncodable) :
    parse filter.encode = .ok filter := by
  rw [parse_eq_ok_iff]
  refine ⟨_, _, _, Filter.segments_encode encodable, filter.operation,
    Filter.readOperation_name _, Filter.readKind_name _, ?_⟩
  exact contentDenotes_join filter.kind_of_mem encodable.isReadable fun among =>
    ⟨(encodable.among among).1, encodable.valueSeparator_notMem_canonical among⟩

/-! ## Whatever is read is encodable -/

namespace ContentDenotes

variable {kind : Kind} {content : String} {operation : Operation} {condition : Condition}

theorem operation_eq (denotes : ContentDenotes kind content operation condition) :
    condition.operation = operation := by
  cases denotes <;> rfl

/-- Every value is read from a part of the content, for a membership from one between separators. -/
theorem exists_token
    (denotes : ContentDenotes kind content operation condition)
    {item : Value} (member : item ∈ condition.items) :
    ∃ token, kind.read? token = some item ∧ token.toList ⊆ content.toList ∧
      (operation = .among → valueSeparator ∉ token.toList) := by
  cases denotes with
  | test read =>
      rw [List.mem_singleton.1 member]
      exact ⟨content, read, List.Subset.refl _, fun among => by cases among⟩
  | among read =>
      obtain ⟨token, piece, itemRead⟩ := exists_mem_of_forall₂ read member
      obtain ⟨clean, subset⟩ := Text.of_mem_split piece
      exact ⟨token, itemRead, subset, fun _ => clean⟩

/-- A content denotes at least one item. -/
theorem items_ne_nil
    (denotes : ContentDenotes kind content operation condition) :
    condition.items ≠ [] := by
  cases denotes with
  | test read => simp [Condition.items]
  | among read =>
      rintro rfl
      exact Text.split_ne_nil _ _ (List.forall₂_nil_right_iff.1 read)

end ContentDenotes

/-- Whatever has been read from a text can be written as one. -/
theorem isEncodable_of_parse {raw : String} {read : Filter} (parsed : parse raw = .ok read) :
    read.IsEncodable := by
  obtain ⟨token, content, rest, found, operation, _, _, denotes⟩ := parse_eq_ok_iff.1 parsed
  have operation_eq : read.operation = operation := denotes.operation_eq
  have fieldClean : segmentSeparator ∉ read.field.toList :=
    notMem_of_mem_segments (by rw [found]; simp)
  have contentClean : segmentSeparator ∉ content.toList :=
    notMem_of_mem_segments (by rw [found]; simp)
  have readable : ∀ item ∈ read.items, item.IsReadable := by
    intro item member
    obtain ⟨_, itemRead, _⟩ := denotes.exists_token member
    exact Kind.isReadable_of_read? itemRead
  refine ⟨fieldClean, ?_, ?_, fun number member => readable _ member,
    fun number member => readable _ member⟩
  · intro text member
    obtain ⟨part, textRead, subset, _⟩ := denotes.exists_token member
    rw [← Kind.eq_of_read?_eq_text textRead]
    exact fun separator => contentClean (subset separator)
  · intro among
    rw [operation_eq] at among
    refine ⟨denotes.items_ne_nil, fun text member => ?_⟩
    obtain ⟨part, textRead, _, clean⟩ := denotes.exists_token member
    rw [← Kind.eq_of_read?_eq_text textRead]
    exact clean among

namespace Filter

/-- Two filters are the same when their parts are, item by item. -/
theorem same_iff {left right : Filter} :
    left.same right = true ↔
      left.field = right.field ∧ left.operation = right.operation ∧ left.kind = right.kind ∧
        List.Forall₂ (fun item other => item.same other = true) left.items right.items := by
  simp only [same, Bool.and_eq_true, beq_iff_eq, sameValues_iff_forall₂, and_assoc]

/-- A filter of readable items is the same as itself. -/
theorem same_self {filter : Filter} (readable : ∀ item ∈ filter.items, item.IsReadable) :
    filter.same filter = true := by
  rw [same_iff, List.forall₂_same]
  exact ⟨rfl, rfl, rfl, fun item member => Value.same_self (readable item member)⟩

/-- Filters that are the same are encodable together. -/
theorem IsEncodable.of_same
    {left right : Filter} (encodable : left.IsEncodable) (same : left.same right = true) :
    right.IsEncodable := by
  obtain ⟨field_eq, operation_eq, kind_eq, values⟩ := same_iff.1 same
  have partner : ∀ item ∈ right.items, ∃ other ∈ left.items, other.same item = true :=
    fun _ member => exists_mem_of_forall₂ values member
  have texts : ∀ content, .text content ∈ right.items → .text content ∈ left.items := by
    intro content member
    obtain ⟨other, present, sameItem⟩ := partner _ member
    rwa [← Value.eq_text_of_same sameItem]
  have readable : ∀ item ∈ right.items, item.IsReadable := by
    intro item member
    obtain ⟨other, present, sameItem⟩ := partner item member
    have kinds : other.kind = item.kind := by
      rw [left.kind_of_mem other present, right.kind_of_mem item member, kind_eq]
    exact (encodable.isReadable other present).of_same sameItem kinds
  refine ⟨field_eq ▸ encodable.field, fun content member => encodable.text _ (texts _ member), ?_,
    fun number member => readable _ member, fun number member => readable _ member⟩
  intro among
  obtain ⟨nonempty, clean⟩ := encodable.among (operation_eq.trans among)
  refine ⟨?_, fun content member => clean content (texts content member)⟩
  intro empty
  rw [empty, List.forall₂_nil_right_iff] at values
  exact nonempty values

end Filter

/--
The text of a filter denotes the filter exactly when the filter is encodable,
and exactly then it denotes an equal filter with the same text.  Otherwise the
text denotes nothing, or another filter.
-/
theorem parse_encode_same_iff_isEncodable (filter : Filter) :
    (filter.IsEncodable ↔ parse filter.encode = .ok filter) ∧
    (filter.IsEncodable ↔ ∃ read, parse filter.encode = .ok read ∧
      read.same filter = true ∧ read.encode = filter.encode) ∧
    (¬filter.IsEncodable ↔ ∀ read, parse filter.encode = .ok read → read.same filter = false) := by
  have encodable_of_same (read : Filter) (parsed : parse filter.encode = .ok read)
      (same : read.same filter = true) : filter.IsEncodable :=
    (isEncodable_of_parse parsed).of_same same
  refine ⟨⟨parse_encode, isEncodable_of_parse⟩, ⟨?_, ?_⟩, ⟨?_, ?_⟩⟩
  · intro encodable
    exact ⟨filter, parse_encode encodable, Filter.same_self encodable.isReadable, rfl⟩
  · rintro ⟨read, parsed, same, _⟩
    exact encodable_of_same read parsed same
  · intro notEncodable read parsed
    rw [← Bool.not_eq_true]
    exact fun same => notEncodable (encodable_of_same read parsed same)
  · intro different encodable
    have same := Filter.same_self encodable.isReadable
    rw [different filter (parse_encode encodable)] at same
    cases same

end RowFilter
