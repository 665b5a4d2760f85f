import RowFilter.Proofs.Filter.Entry

/-!
# Which filters survive their record

A record holds each value by itself, so no separator stands in the way of
reading it.  The record of a filter gives the filter back exactly when reading
can give all its values, and else is refused for the first that it cannot give.
-/

namespace RowFilter
namespace Filter

/-- The first of the values that reading cannot give. -/
def FirstUnreadable (filter : Filter) (item : Value) : Prop :=
  ∃ place, filter.items[place]? = some item ∧ ¬item.IsReadable ∧
    ∀ other ∈ filter.items.take place, other.IsReadable

/-- What the text of a filter does not tell apart: a separator of its own, or no value at all. -/
inductive IsAmbiguous (filter : Filter) : Prop
  /-- A separator of segments in the field. -/
  | field (member : segmentSeparator ∈ filter.field.toList) : IsAmbiguous filter
  /-- A separator of segments in a text. -/
  | text {content : String} (item : .text content ∈ filter.items)
      (member : segmentSeparator ∈ content.toList) : IsAmbiguous filter
  /-- A separator of values in a text of a membership. -/
  | among {content : String} (among : filter.operation = .among)
      (item : .text content ∈ filter.items) (member : valueSeparator ∈ content.toList) :
      IsAmbiguous filter
  /-- A membership without values. -/
  | empty (among : filter.operation = .among) (none : filter.items = []) : IsAmbiguous filter

variable {filter : Filter}

/-- A filter can be written when its items are readable and its text is not ambiguous. -/
theorem isEncodable_iff :
    filter.IsEncodable ↔
      (∀ item ∈ filter.items, item.IsReadable) ∧ ¬filter.IsAmbiguous := by
  constructor
  · intro encodable
    refine ⟨encodable.isReadable, ?_⟩
    rintro (member | ⟨item, member⟩ | ⟨among, item, member⟩ | ⟨among, none⟩)
    · exact encodable.field member
    · exact encodable.text _ item member
    · exact (encodable.among among).2 _ item member
    · exact (encodable.among among).1 none
  · rintro ⟨readable, clear⟩
    exact
      { field := fun member => clear (.field member)
        text := fun _ item member => clear (.text item member)
        among := fun among => ⟨fun none => clear (.empty among none),
          fun _ item member => clear (.among among item member)⟩
        int := fun _ member => readable _ member
        decimal := fun _ member => readable _ member }

/-- The text of a filter gives an equal filter exactly when the filter is encodable. -/
theorem exists_parse_same_iff :
    (∃ read, parse filter.encode = .ok read ∧ read.same filter = true) ↔ filter.IsEncodable := by
  constructor
  · rintro ⟨read, parsed, same⟩
    exact (isEncodable_of_parse parsed).of_same same
  · intro encodable
    exact ⟨filter, parse_encode encodable, same_self encodable.isReadable⟩

/-! ## Reading canonical texts one by one -/

/-- The canonical text of a readable value is read back, and that of any other is refused. -/
theorem described_coerce_canonical
    (field : String) {kind : Kind} {item : Value} (kind_eq : item.kind = some kind) :
    Described (coerce field item.canonical kind) (fun other => item.IsReadable ∧ item = other)
      (fun error => ¬item.IsReadable ∧ error = .invalidValue field kind item.canonical) := by
  apply Described.of_cases
  · rintro _ ⟨readable, rfl⟩
    rw [coerce_eq_ok_iff, Kind.read?_canonical kind_eq readable]
  · rintro _ ⟨unreadable, rfl⟩
    rw [coerce, Kind.read?_canonical_eq_none kind_eq unreadable]
  · by_cases readable : item.IsReadable
    · exact Or.inl ⟨item, readable, rfl⟩
    · exact Or.inr ⟨_, readable, rfl⟩

/-- Canonical texts are read back one by one, up to the first that is not readable. -/
theorem described_coerceAll_canonical (filter : Filter) :
    Described (coerceAll filter.field filter.kind (filter.items.map Value.canonical))
      (fun others => (∀ item ∈ filter.items, item.IsReadable) ∧ filter.items = others)
      (fun error => ∃ item, filter.FirstUnreadable item ∧
        error = .invalidValue filter.field filter.kind item.canonical) := by
  rw [coerceAll_eq_mapM, List.mapM_map]
  have each := Described.mapM fun item member =>
    described_coerce_canonical filter.field (filter.kind_of_mem item member)
  refine each.congr ?_ ?_
  · intro others
    rw [List.forall₂_and_left, List.forall₂_eq_eq_eq]
    rfl
  · intro error
    simp only [FirstFault, exists_and_left, exists_eq', and_true, FirstUnreadable]
    constructor
    · rintro ⟨place, item, found, ⟨unreadable, rfl⟩, before⟩
      exact ⟨item, ⟨place, found, unreadable, before⟩, rfl⟩
    · rintro ⟨item, ⟨place, found, unreadable, before⟩, rfl⟩
      exact ⟨place, item, found, ⟨unreadable, rfl⟩, before⟩

/-! ## Records -/

theorem operation_name_ne_empty (operation : Operation) : operation.name ≠ "" := by
  have each : ∀ operation ∈ Operation.all, operation.name ≠ "" := by decide
  exact each operation operation.mem_all

theorem listed_valueData (filter : Filter) : filter.valueData.listed = filter.valueData := by
  rw [valueData]
  cases filter.condition <;> rfl

/-- No part of a record is missing, so its parts are read. -/
theorem ofRecord_toRecord (filter : Filter) :
    ofRecord filter.toRecord =
      ofEntry (.text filter.field) (.text filter.operation.name) filter.valueData
        (.text filter.kind.name) := by
  have complete : missingParts filter.toRecord = [] := by
    simp [missingParts, toRecord, Datum.get?, Datum.lookup?, Datum.isTruthy,
      filter.field_ne_empty, operation_name_ne_empty]
  have value : ((filter.toRecord.get? "value").getD (.text "")) = filter.valueData := rfl
  rw [ofRecord, complete, value, listed_valueData]
  rfl

/-- The tokens of a record are the canonical texts of the values, which are never split. -/
theorem hasTokens_valueData (filter : Filter) :
    HasTokens filter.operation filter.valueData (filter.items.map Value.canonical) := by
  rw [operation, items, valueData]
  cases filter.condition with
  | test asked item => exact .content .test
  | among items =>
      have members := HasTokens.members (items.map fun item => .text item.canonical)
      rw [List.map_map] at members
      exact members

/-- The record of a filter is read as its canonical texts are. -/
theorem described_ofRecord_tokens (filter : Filter) :
    Described (ofRecord filter.toRecord)
      (IsMadeOf filter.field filter.operation filter.kind (filter.items.map Value.canonical))
      (fun error => ∃ fault,
        FirstTokenFault filter.field filter.kind (filter.items.map Value.canonical) fault ∧
          error = .filter fault) := by
  have operationNamed :
      Text.upper (Datum.text filter.operation.name).plain = filter.operation.name :=
    filter.operation.upper_name
  have kindNamed : NamesKind (Datum.text filter.kind.name).kindToken filter.kind :=
    filter.kind.upper_name
  rw [ofRecord_toRecord]
  exact described_ofEntry_of_named filter.field_ne_empty operationNamed kindNamed
    filter.hasTokens_valueData

/-- The record of a filter is read back, or refused at its first item that is not readable. -/
theorem described_ofRecord_toRecord (filter : Filter) :
    Described (ofRecord filter.toRecord)
      (fun read => (∀ item ∈ filter.items, item.IsReadable) ∧ filter = read)
      (fun error => ∃ item, filter.FirstUnreadable item ∧
        error = .filter (.invalidValue filter.field filter.kind item.canonical)) := by
  have tokens := described_coerceAll filter.field filter.kind (filter.items.map Value.canonical)
  have values := described_coerceAll_canonical filter
  refine (described_ofRecord_tokens filter).congr ?_ ?_
  · intro read
    constructor
    · rintro ⟨field_eq, operation_eq, kind_eq, denote⟩
      obtain ⟨readable, items_eq⟩ :=
        (values.eq_ok_iff _).1 ((tokens.eq_ok_iff _).2 denote)
      refine ⟨readable, eq_of_parts field_eq.symm kind_eq.symm ?_⟩
      exact Condition.eq_of_items operation_eq.symm items_eq
    · rintro ⟨readable, rfl⟩
      exact ⟨rfl, rfl, rfl, (tokens.eq_ok_iff _).1 ((values.eq_ok_iff _).2 ⟨readable, rfl⟩)⟩
  · intro error
    constructor
    · rintro ⟨fault, firstFault, rfl⟩
      obtain ⟨item, first, rfl⟩ := (values.eq_error_iff _).1 ((tokens.eq_error_iff _).2 firstFault)
      exact ⟨item, first, rfl⟩
    · rintro ⟨item, first, rfl⟩
      exact ⟨_, (tokens.eq_error_iff _).1 ((values.eq_error_iff _).2 ⟨item, first, rfl⟩), rfl⟩

/--
The record of a filter gives the filter back exactly when its integers are
within the limits and its decimals are finite, and else it is refused for the
first value that is not.  Separators in it do not matter, while of those filters
the ambiguous ones are exactly those that do not come back from their text.
-/
theorem ofRecord_toRecord_iff_isReadable (filter : Filter) :
    (ofRecord filter.toRecord = .ok filter ↔ ∀ item ∈ filter.items, item.IsReadable) ∧
    ((∃ read, ofRecord filter.toRecord = .ok read ∧ read.same filter = true) ↔
      ∀ item ∈ filter.items, item.IsReadable) ∧
    ((¬∀ item ∈ filter.items, item.IsReadable) ↔
      ∃ item, filter.FirstUnreadable item ∧
        ofRecord filter.toRecord =
          .error (.filter (.invalidValue filter.field filter.kind item.canonical))) ∧
    ((∀ item ∈ filter.items, item.IsReadable) →
      (filter.IsAmbiguous ↔ ¬∃ read, parse filter.encode = .ok read ∧
        read.same filter = true)) := by
  have described := described_ofRecord_toRecord filter
  have given : ofRecord filter.toRecord = .ok filter ↔ ∀ item ∈ filter.items, item.IsReadable := by
    rw [described.eq_ok_iff, and_iff_left rfl]
  refine ⟨given, ⟨?_, ?_⟩, ⟨?_, ?_⟩, fun readable => ?_⟩
  · rintro ⟨read, made, -⟩
    exact ((described.eq_ok_iff read).1 made).1
  · intro readable
    exact ⟨filter, given.2 readable, same_self readable⟩
  · intro unreadable
    rcases described.gives_or_fails with ⟨read, readable, -⟩ | ⟨error, item, first, rfl⟩
    · exact absurd readable unreadable
    · exact ⟨item, first, (described.eq_error_iff _).2 ⟨item, first, rfl⟩⟩
  · rintro ⟨item, ⟨place, found, unreadable, -⟩, -⟩ readable
    exact unreadable (readable item (List.mem_of_getElem? found))
  · rw [exists_parse_same_iff, isEncodable_iff, and_iff_right readable, not_not]

end Filter
end RowFilter
