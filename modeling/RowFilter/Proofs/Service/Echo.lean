import RowFilter.Proofs.Service.Answer
import RowFilter.Proofs.Text.Snake

/-!
# The filters of an answer ask for the same answer

An answer gives its filters as texts, each with its field as the statement
names it.  These texts are read as the same filters again, and a field in snake
case stays as it is, so a query with them has the same answer.
-/

namespace RowFilter
namespace Service

/-- The filters of an answer, as texts. -/
def QueryAnswer.texts (answer : QueryAnswer) : List String :=
  answer.selection.filters.map Filter.encode

/-- The same query with other filters. -/
def QueryRequest.withFilters (request : QueryRequest) (texts : List String) : QueryRequest :=
  { request with filters := texts.map some }

/-! ## The filters of an answer -/

/-- Whatever has been read can be written. -/
theorem isEncodable_of_parseOptional
    {raw : Option String} {filter : Filter} (parsed : parseOptional raw = .ok filter) :
    filter.IsEncodable := by
  cases raw with
  | none => cases parsed
  | some raw => exact isEncodable_of_parse parsed

/-- A field in snake case gets no separator that it did not have. -/
theorem isEncodable_snakeField {filter : Filter} (encodable : filter.IsEncodable) :
    (snakeField filter).IsEncodable :=
  { encodable with
    field := fun member =>
      encodable.field (Text.mem_of_mem_snake member (by decide) (by decide)) }

theorem snakeField_snakeField (filter : Filter) :
    snakeField (snakeField filter) = snakeField filter :=
  Filter.eq_of_parts (Text.snake_snake filter.field) rfl rfl

theorem isEncodable_of_mem_compiledFilters
    {request : QueryRequest} {parsed : List Filter} (read : ReadAll request.filters parsed) :
    ∀ filter ∈ request.compiledFilters parsed, filter.IsEncodable := by
  have encodable : ∀ filter ∈ parsed, filter.IsEncodable :=
    forall_mem_of_forall₂ read fun _ _ => isEncodable_of_parseOptional
  rw [QueryRequest.compiledFilters]
  split
  · intro filter member
    obtain ⟨original, present, rfl⟩ := List.mem_map.1 member
    exact isEncodable_snakeField (encodable original present)
  · exact encodable

/-- Filters that are compiled once are compiled as they are. -/
theorem compiledFilters_compiledFilters (request : QueryRequest) (parsed : List Filter) :
    request.compiledFilters (request.compiledFilters parsed) = request.compiledFilters parsed := by
  simp only [QueryRequest.compiledFilters]
  split
  · rw [List.map_map]
    exact List.map_congr_left fun filter _ => snakeField_snakeField filter
  · rfl

/-- The texts of encodable filters are read as these filters. -/
theorem readAll_encode
    {filters : List Filter} (encodable : ∀ filter ∈ filters, filter.IsEncodable) :
    ReadAll ((filters.map Filter.encode).map some) filters := by
  rw [ReadAll, List.map_map, List.forall₂_map_left_iff, List.forall₂_same]
  intro filter member
  rw [Function.comp_apply, parseOptional]
  exact parse_encode (encodable filter member)

/-! ## Asking again -/

variable {catalogue : Catalogue} {request : QueryRequest} {answer : QueryAnswer}

/-- A query gets exactly the answers that its request has. -/
theorem query_eq_ok_iff :
    query catalogue request = .ok answer ↔ Answers catalogue request answer := by
  constructor
  · intro answered
    rw [query] at answered
    split at answered
    · next given =>
        cases answered
        exact answers_of_answerQuery given
    · cases answered
  · intro answers
    rw [query, answerQuery_of_answers answers]

/-- A query with the filters of its answer has the same answer. -/
theorem query_withFilters_texts (answered : query catalogue request = .ok answer) :
    query catalogue (request.withFilters answer.texts) = .ok answer := by
  rw [query_eq_ok_iff] at answered ⊢
  obtain ⟨parsed, entity, read, loaded, allowed, selected, view⟩ := answered
  have texts : answer.texts = (request.compiledFilters parsed).map Filter.encode := by
    rw [QueryAnswer.texts, Sql.select_filters selected]
  refine ⟨request.compiledFilters parsed, entity, ?_, loaded, allowed, ?_, view⟩
  · rw [QueryRequest.withFilters, texts]
    exact readAll_encode (isEncodable_of_mem_compiledFilters read)
  · rw [← selected]
    exact congrArg _ (compiledFilters_compiledFilters request parsed)

namespace Sample

/-- A view of people with the day on which they signed up and their age. -/
def people : Catalogue :=
  [(.text "people",
    { view := "crm.people"
      columns := [("SIGNUP_DATE", { type := .date }), ("AGE", { type := .number })] })]

/-- A query for some of the people, its fields in camel case. -/
def recentPeople : QueryRequest :=
  { entity := "people"
    filters := [some "signupDate;ge;2022-01-01;date", some "age;in;1.10~2;FLOAT"]
    count := true
    camelCase := true }

end Sample

/-- The texts of the answer differ from those of the query, and have the same answer. -/
theorem query_withFilters_texts_camelCase :
    ∃ answer, query Sample.people Sample.recentPeople = .ok answer ∧
      answer.texts = ["signup_date;GE;2022-01-01;DATE", "age;IN;1.10~2;FLOAT"] ∧
      query Sample.people (Sample.recentPeople.withFilters answer.texts) = .ok answer := by
  have given : (query Sample.people Sample.recentPeople).toOption.map QueryAnswer.texts =
      some ["signup_date;GE;2022-01-01;DATE", "age;IN;1.10~2;FLOAT"] := by
    decide +kernel
  cases answered : query Sample.people Sample.recentPeople with
  | error rejection => simp [answered, Except.toOption] at given
  | ok answer =>
      refine ⟨answer, rfl, ?_, query_withFilters_texts answered⟩
      simpa [answered, Except.toOption] using given

end Service
end RowFilter
