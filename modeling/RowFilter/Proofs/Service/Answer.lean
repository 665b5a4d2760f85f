import RowFilter.Proofs.Catalogue.Lookup
import RowFilter.Proofs.Filter.Operand
import RowFilter.Proofs.Service.History
import RowFilter.Proofs.Sql.Refusal

/-!
# What a query is answered

A query is refused for the first of five reasons: a filter that cannot be read,
an entity that is not loaded, a column that the entity does not have, an unknown
style of placeholders, and a filter that does not compile.  Every other query
has a statement for its answer.
-/

namespace RowFilter
namespace Service

/-- The filters of a query as they are compiled, their fields in snake case where this is asked. -/
def QueryRequest.compiledFilters (request : QueryRequest) (parsed : List Filter) : List Filter :=
  if request.camelCase then parsed.map snakeField else parsed

/-- How the statement of a query is written. -/
def QueryRequest.options (request : QueryRequest) : Sql.SelectOptions :=
  { columns := request.columns, style := request.style, quote := request.quote
    distinct := request.distinct, count := request.count }

/-- The filters that texts denote, one for each. -/
def ReadAll (raws : List (Option String)) (filters : List Filter) : Prop :=
  List.Forall₂ (fun raw filter => parseOptional raw = .ok filter) raws filters

/-- A column that may be selected: all of them, or one that the entity has in any case. -/
def IsAllowed (entity : Entity) (column : String) : Prop :=
  column = "*" ∨ ∃ spec, (Text.upper column, spec) ∈ entity.columns

/-- The first of the columns that may not be selected. -/
def FirstDisallowed (entity : Entity) (columns : List String) (column : String) : Prop :=
  ¬IsAllowed entity column ∧
    ∃ before after, columns = before ++ column :: after ∧ ∀ other ∈ before, IsAllowed entity other

/-- What an answer consists of: the statement over the view of the entity. -/
def Answers (catalogue : Catalogue) (request : QueryRequest) (answer : QueryAnswer) : Prop :=
  ∃ parsed entity,
    ReadAll request.filters parsed ∧
    catalogue.find? request.entity = some entity ∧
    (∀ column ∈ request.columns, IsAllowed entity column) ∧
    Sql.select entity.view request.options (Sql.resolver entity.fieldColumns request.quote)
      (request.compiledFilters parsed) = .ok answer.selection ∧
    answer.view = entity.view

/-- Why a filter does not compile over the columns of an entity. -/
inductive FilterFault (entity : Entity) (filter : Filter) : FilterError → Prop
  /-- No column has the upper-case form of the field as its name. -/
  | unknownField (unknown : ∀ spec, (Text.upper filter.field, spec) ∉ entity.columns) :
      FilterFault entity filter (.unknownField filter.field)
  /-- No member of the enumeration has the upper-case form of the value. -/
  | notMember {spec : ColumnSpec} (declared : (Text.upper filter.field, spec) ∈ entity.columns)
      {item : Value} (condition : filter.condition = .test (.compare .eq) item)
      (enumeration : spec.isEnumeration = true)
      (stranger : ∀ member ∈ spec.members, Text.upper member ≠ Text.upper item.plain) :
      FilterFault entity filter (.notMember filter.field (enumLabel filter.field spec) item)
  /-- A text is looked for among values of another kind. -/
  | unsupported {spec : ColumnSpec} (declared : (Text.upper filter.field, spec) ∈ entity.columns)
      (asksText : filter.operation = .test .contains ∨ filter.operation = .test .search)
      (otherKind : filter.kind ≠ .text) :
      FilterFault entity filter (.unsupported filter.field filter.operation filter.kind)

/-- The first reason for which a query is refused. -/
inductive Refuses (catalogue : Catalogue) (request : QueryRequest) : Failure → Prop
  /-- A filter cannot be read. -/
  | unreadable {place : Nat} {error : FilterError}
      (fault : FirstFault (fun raw => ∃ filter, parseOptional raw = .ok filter)
        (fun raw error => parseOptional raw = .error error) request.filters place error) :
      Refuses catalogue request (.filter error)
  /-- No entity has the name. -/
  | unknownEntity {parsed : List Filter} (read : ReadAll request.filters parsed)
      (unknown : ∀ entity, (.text request.entity, entity) ∉ catalogue) :
      Refuses catalogue request (.unknownEntity request.entity)
  /-- A column may not be selected. -/
  | columnNotAllowed {parsed : List Filter} (read : ReadAll request.filters parsed)
      {entity : Entity} (loaded : catalogue.find? request.entity = some entity)
      {column : String} (first : FirstDisallowed entity request.columns column) :
      Refuses catalogue request (.columnNotAllowed request.entity column)
  /-- No style of placeholders has the name. -/
  | unknownStyle {parsed : List Filter} (read : ReadAll request.filters parsed)
      {entity : Entity} (loaded : catalogue.find? request.entity = some entity)
      (allowed : ∀ column ∈ request.columns, IsAllowed entity column)
      (unknown : Sql.ParamStyle.ofName? request.style = none) :
      Refuses catalogue request (.statement .unknownStyle)
  /-- A filter does not compile. -/
  | uncompilable {parsed : List Filter} (read : ReadAll request.filters parsed)
      {entity : Entity} (loaded : catalogue.find? request.entity = some entity)
      (allowed : ∀ column ∈ request.columns, IsAllowed entity column)
      {style : Sql.ParamStyle} (known : Sql.ParamStyle.ofName? request.style = some style)
      {place : Nat} {error : FilterError}
      (fault : FirstFault (fun filter => ∀ error, ¬FilterFault entity filter error)
        (FilterFault entity) (request.compiledFilters parsed) place error) :
      Refuses catalogue request (.filter error)

/-! ## Filters and columns -/

theorem parseAll_eq_mapM (raws : List (Option String)) :
    parseAll raws = raws.mapM parseOptional := by
  induction raws with
  | nil => rfl
  | cons raw raws inductionHypothesis =>
      rw [parseAll, List.mapM_cons, inductionHypothesis]
      cases parseOptional raw with
      | error error => rfl
      | ok filter => cases raws.mapM parseOptional <;> rfl

/-- All texts are read, or the first that is no filter is reported. -/
theorem described_parseAll (raws : List (Option String)) :
    Described (parseAll raws) (ReadAll raws) fun error =>
      ∃ place, FirstFault (fun raw => ∃ filter, parseOptional raw = .ok filter)
        (fun raw error => parseOptional raw = .error error) raws place error := by
  rw [parseAll_eq_mapM]
  exact Described.mapM fun raw _ => .self (parseOptional raw)

theorem isAllowed_iff {entity : Entity} {column : String} :
    IsAllowed entity column ↔
      (decide (column ≠ "*") && (entity.columns.find? (Text.upper column)).isNone) = false := by
  simp only [← Bool.not_eq_true, Bool.and_eq_true, decide_eq_true_eq, Option.isNone_iff_eq_none,
    Columns.find?_eq_none_iff, not_and_or, not_not, not_forall, IsAllowed]

theorem disallowedColumn?_eq_some_iff {entity : Entity} {columns : List String} {column : String} :
    disallowedColumn? entity columns = some column ↔ FirstDisallowed entity columns column := by
  simp only [disallowedColumn?, FirstDisallowed, List.find?_eq_some_iff_append, isAllowed_iff,
    Bool.not_eq_false, Bool.not_eq_eq_eq_not, Bool.not_true]

theorem disallowedColumn?_eq_none_iff {entity : Entity} {columns : List String} :
    disallowedColumn? entity columns = none ↔ ∀ column ∈ columns, IsAllowed entity column := by
  simp only [disallowedColumn?, List.find?_eq_none, isAllowed_iff, Bool.not_eq_true]

/-- A filter on an entity does not compile exactly for its faults there. -/
theorem compileFault_iff_filterFault
    {entity : Entity} (distinct : entity.HasDistinctColumns) {quote : Bool} {filter : Filter}
    {error : FilterError} :
    CompileFault Sql.backend (Sql.resolver entity.fieldColumns quote) filter error ↔
      FilterFault entity filter error := by
  have resolver := entity.described_resolver distinct quote filter.field
  constructor
  · intro fault
    cases fault with
    | unresolved failed =>
        obtain ⟨unknown, rfl⟩ := (resolver.eq_error_iff _).1 failed
        exact .unknownField unknown
    | @test _ resolved asked item condition _ fault =>
        obtain ⟨spec, declared, rfl⟩ := (resolver.eq_ok_iff _).1 resolved
        have kind := filter.kind_of_condition condition item List.mem_cons_self
        have operation : filter.operation = .test asked := congrArg Condition.operation condition
        cases fault with
        | notMember enumeration stranger => exact .notMember declared condition enumeration stranger
        | unsupported asksText otherKind =>
            rw [← operation]
            refine .unsupported declared ?_ fun text => otherKind (text ▸ kind)
            rw [operation]
            exact asksText.imp (congrArg Operation.test) (congrArg Operation.test)
  · intro fault
    cases fault with
    | unknownField unknown => exact .unresolved ((resolver.eq_error_iff _).2 ⟨unknown, rfl⟩)
    | @notMember spec declared item condition enumeration stranger =>
        have resolved := (resolver.eq_ok_iff _).2 ⟨spec, declared, rfl⟩
        exact .test resolved condition (.notMember enumeration stranger)
    | @unsupported spec declared asksText otherKind =>
        have resolved := (resolver.eq_ok_iff _).2 ⟨spec, declared, rfl⟩
        cases condition : filter.condition with
        | among items => simp [Filter.operation, condition, Condition.operation] at asksText
        | test asked item =>
            have kind := filter.kind_of_condition condition item List.mem_cons_self
            have operation : filter.operation = .test asked :=
              congrArg Condition.operation condition
            rw [operation, Operation.test.injEq, Operation.test.injEq] at asksText
            rw [operation]
            refine .test resolved condition (.unsupported asksText ?_)
            rwa [kind, Ne, Option.some.injEq]

/-- Fields are resolved against the columns of the entity, so that is where filters fail. -/
theorem firstCompileFault_iff
    {entity : Entity} (distinct : entity.HasDistinctColumns) {quote : Bool}
    {filters : List Filter} {error : FilterError} :
    Sql.FirstCompileFault (Sql.resolver entity.fieldColumns quote) filters error ↔
      ∃ place, FirstFault (fun filter => ∀ error, ¬FilterFault entity filter error)
        (FilterFault entity) filters place error := by
  simp only [Sql.FirstCompileFault, FirstFault, (described_conjunct _).exists_gives_iff,
    compileFault_iff_filterFault distinct]

/-! ## Answers and refusals -/

variable {catalogue : Catalogue} {request : QueryRequest} {answer : QueryAnswer}

/-- What is left to fail once filters are read, the entity is found and its columns are allowed. -/
theorem answerQuery_of_allowed
    {parsed : List Filter} (read : ReadAll request.filters parsed)
    {entity : Entity} (loaded : catalogue.find? request.entity = some entity)
    (allowed : ∀ column ∈ request.columns, IsAllowed entity column) :
    answerQuery catalogue request =
      match Sql.select entity.view request.options
          (Sql.resolver entity.fieldColumns request.quote) (request.compiledFilters parsed) with
      | .error error => .error (.statement error)
      | .ok selection => .ok { selection, view := entity.view } := by
  rw [answerQuery, ((described_parseAll _).eq_ok_iff _).2 read, loaded]
  simp only [disallowedColumn?_eq_none_iff.2 allowed]
  rfl

/-- The answer that a request has is given. -/
theorem answerQuery_of_answers (answers : Answers catalogue request answer) :
    answerQuery catalogue request = .ok answer := by
  obtain ⟨parsed, entity, read, loaded, allowed, selected, view⟩ := answers
  rw [answerQuery_of_allowed read loaded allowed, selected, ← view]

/-- Whatever is given is the answer of the request. -/
theorem answers_of_answerQuery (answered : answerQuery catalogue request = .ok answer) :
    Answers catalogue request answer := by
  simp only [answerQuery] at answered
  split at answered
  · cases answered
  · next parsed read =>
      split at answered
      · cases answered
      · next entity loaded =>
          split at answered
          · cases answered
          · next columns =>
              split at answered
              · cases answered
              · next selection selected =>
                  cases answered
                  exact ⟨parsed, entity, ((described_parseAll _).eq_ok_iff _).1 read, loaded,
                    disallowedColumn?_eq_none_iff.1 columns, selected, rfl⟩

/-- Entities whose view has a name and whose columns have distinct names. -/
def IsWellFormed (catalogue : Catalogue) : Prop :=
  ∀ named ∈ catalogue, named.2.view ≠ "" ∧ named.2.HasDistinctColumns

variable (wellFormed : IsWellFormed catalogue)

include wellFormed

/-- A request that has to be refused is refused for this cause. -/
theorem answerQuery_of_refuses
    {failure : Failure} (refuses : Refuses catalogue request failure) :
    answerQuery catalogue request = .error failure := by
  have reading := described_parseAll request.filters
  cases refuses with
  | unreadable fault => rw [answerQuery, (reading.eq_error_iff _).2 ⟨_, fault⟩]
  | unknownEntity read unknown =>
      rw [answerQuery, (reading.eq_ok_iff _).2 read]
      simp only [Catalogue.find?_eq_none_iff.2 unknown]
  | columnNotAllowed read loaded first =>
      rw [answerQuery, (reading.eq_ok_iff _).2 read, loaded]
      simp only [disallowedColumn?_eq_some_iff.2 first]
  | unknownStyle read loaded allowed unknown =>
      have named := (wellFormed _ (Catalogue.mem_of_find? loaded)).1
      rw [answerQuery_of_allowed read loaded allowed,
        Sql.select_of_fault (.unknownStyle named unknown)]
  | uncompilable read loaded allowed known fault =>
      obtain ⟨named, distinct⟩ := wellFormed _ (Catalogue.mem_of_find? loaded)
      rw [answerQuery_of_allowed read loaded allowed, Sql.select_of_fault
        (.filter named known ((firstCompileFault_iff distinct).2 ⟨_, fault⟩))]
      rfl

/-- Every query is answered or refused. -/
theorem exists_answers_or_refuses (request : QueryRequest) :
    (∃ answer, Answers catalogue request answer) ∨
      ∃ failure, Refuses catalogue request failure := by
  rcases (described_parseAll request.filters).gives_or_fails with
    ⟨parsed, read⟩ | ⟨error, place, fault⟩
  · cases loaded : catalogue.find? request.entity with
    | none =>
        exact Or.inr ⟨_, .unknownEntity read (Catalogue.find?_eq_none_iff.1 loaded)⟩
    | some entity =>
        cases columns : disallowedColumn? entity request.columns with
        | some column =>
            exact Or.inr ⟨_, .columnNotAllowed read loaded
              (disallowedColumn?_eq_some_iff.1 columns)⟩
        | none =>
            have allowed := disallowedColumn?_eq_none_iff.1 columns
            obtain ⟨named, distinct⟩ := wellFormed _ (Catalogue.mem_of_find? loaded)
            rcases (Sql.described_select entity.view request.options
                (Sql.resolver entity.fieldColumns request.quote)
                (request.compiledFilters parsed)).gives_or_fails with
              ⟨selection, selected⟩ | ⟨_, empty | ⟨-, unknown⟩ | ⟨-, known, fault⟩⟩
            · exact Or.inl ⟨⟨selection, entity.view⟩, parsed, entity, read, loaded, allowed,
                selected, rfl⟩
            · exact absurd empty named
            · exact Or.inr ⟨_, .unknownStyle read loaded allowed unknown⟩
            · obtain ⟨place, fault⟩ := (firstCompileFault_iff distinct).1 fault
              exact Or.inr ⟨_, .uncompilable read loaded allowed known fault⟩
  · exact Or.inr ⟨_, .unreadable fault⟩

/-- A request has an answer and gets it, or is refused for the first of its causes. -/
theorem described_answerQuery (request : QueryRequest) :
    Described (answerQuery catalogue request) (Answers catalogue request)
      (Refuses catalogue request) :=
  .of_cases (fun _ => answerQuery_of_answers) (fun _ => answerQuery_of_refuses wellFormed)
    (exists_answers_or_refuses wellFormed request)

omit wellFormed

/-! ## The status of a refusal -/

/-- A request is refused as a bad one or for an unknown entity. -/
theorem Refuses.status_eq {failure : Failure} (refuses : Refuses catalogue request failure) :
    failure.status = 400 ∨ failure.status = 404 := by
  cases refuses with
  | unknownEntity => exact Or.inr rfl
  | _ => exact Or.inl rfl

/-- What is asked for is not there when all filters are read and no entity has the name. -/
theorem Refuses.status_eq_404_iff
    {failure : Failure} (refuses : Refuses catalogue request failure) :
    failure.status = 404 ↔
      (∃ parsed, ReadAll request.filters parsed) ∧
        ∀ entity, (.text request.entity, entity) ∉ catalogue := by
  have wrong {failure : Failure} (status : failure.status = 400) : failure.status ≠ 404 := by
    simp [status]
  have found {entity : Entity} (loaded : catalogue.find? request.entity = some entity) :
      ¬((∃ parsed, ReadAll request.filters parsed) ∧
        ∀ entity, (Datum.text request.entity, entity) ∉ catalogue) :=
    fun ⟨_, unknown⟩ => unknown entity (Catalogue.mem_of_find? loaded)
  cases refuses with
  | unreadable fault =>
      refine iff_of_false (wrong rfl) fun ⟨⟨parsed, read⟩, _⟩ => ?_
      exact (described_parseAll request.filters).not_fails_of_gives read _ ⟨_, fault⟩
  | unknownEntity read unknown => exact iff_of_true rfl ⟨⟨_, read⟩, unknown⟩
  | columnNotAllowed _ loaded _ => exact iff_of_false (wrong rfl) (found loaded)
  | unknownStyle _ loaded _ _ => exact iff_of_false (wrong rfl) (found loaded)
  | uncompilable _ loaded _ _ _ => exact iff_of_false (wrong rfl) (found loaded)

/-! ## Sessions -/

/-- Whatever is loaded is well formed. -/
theorem LastLoaded.isWellFormed
    {path : String} {steps : List Step} (lastLoaded : LastLoaded path steps catalogue) :
    IsWellFormed catalogue := by
  intro named member
  refine ⟨(lastLoaded.isNormal named member).view_ne_empty, ?_⟩
  cases lastLoaded with
  | never => exact absurd member List.not_mem_nil
  | loaded _ loads _ =>
      obtain ⟨-, _, -, _, -, -, declares⟩ := loads
      exact declares.hasDistinctColumns named member

/-- A query leaves the session alone. -/
theorem step_query (session : Session) (request : QueryRequest) :
    session.step (.query request) =
      (session,
        match answerQuery session.catalogue request with
        | .ok answer => .answer answer
        | .error failure => .rejected failure.rejection) := by
  cases answered : answerQuery session.catalogue request <;>
    simp only [Session.step, query, answered]

namespace Session

/--
After any steps a query leaves the session as it is, and it is answered or
rejected: with status 404 exactly where all its filters are read and no entity
has the name, and with status 400 in all other cases.  The rejection is that of
the first reason to refuse it.  Neither naming a filter's field in snake case
nor writing the filter of an answer can fail on the way.
-/
theorem query_answered_or_rejected (path : Option String) (steps : List Step)
    (request : QueryRequest) :
    (∀ answer, (after path steps).step (.query request) = (after path steps, .answer answer) ↔
      Answers (after path steps).catalogue request answer) ∧
    (∀ rejection,
      (after path steps).step (.query request) = (after path steps, .rejected rejection) ↔
        ∃ failure, Refuses (after path steps).catalogue request failure ∧
          rejection = failure.rejection) ∧
    ((∃ answer,
        (after path steps).step (.query request) = (after path steps, .answer answer)) ∨
      ∃ rejection,
        (after path steps).step (.query request) = (after path steps, .rejected rejection) ∧
          (rejection.status = 400 ∨ rejection.status = 404)) ∧
    ((∃ rejection,
        (after path steps).step (.query request) = (after path steps, .rejected rejection) ∧
          rejection.status = 404) ↔
      (∃ parsed, ReadAll request.filters parsed) ∧
        ∀ entity, (.text request.entity, entity) ∉ (after path steps).catalogue) ∧
    ∀ filter : Filter,
      Filter.ofOperand (.text (Text.snake filter.field)) (.text filter.operation.name)
          filter.operand (.text filter.kind.name) = .ok (snakeField filter) ∧
        encodeOperand filter.field filter.operation.name filter.operand (some filter.kind.name) =
          .ok filter.encode := by
  have wellFormed := (lastLoaded_after path steps).isWellFormed
  generalize after path steps = session at wellFormed ⊢
  have described := described_answerQuery wellFormed request
  have answer_iff (answer : QueryAnswer) :
      session.step (.query request) = (session, .answer answer) ↔
        Answers session.catalogue request answer := by
    rw [← described.eq_ok_iff, step_query]
    cases answerQuery session.catalogue request <;> simp
  have rejection_iff (rejection : Rejection) :
      session.step (.query request) = (session, .rejected rejection) ↔
        ∃ failure, Refuses session.catalogue request failure ∧
          rejection = failure.rejection := by
    simp only [← described.eq_error_iff]
    rw [step_query]
    cases answerQuery session.catalogue request <;> simp [eq_comm]
  refine ⟨answer_iff, rejection_iff, ?_, ?_, fun filter => ⟨?_, ?_⟩⟩
  · simp only [answer_iff, rejection_iff]
    rcases described.gives_or_fails with answers | ⟨failure, refuses⟩
    · exact Or.inl answers
    · exact Or.inr ⟨_, ⟨failure, refuses, rfl⟩, refuses.status_eq⟩
  · simp only [rejection_iff]
    constructor
    · rintro ⟨_, ⟨failure, refuses, rfl⟩, status⟩
      exact refuses.status_eq_404_iff.1 status
    · rintro ⟨⟨parsed, read⟩, unknown⟩
      exact ⟨_, ⟨_, .unknownEntity read unknown, rfl⟩, rfl⟩
  · exact filter.ofOperand_operand (Text.snake_ne_empty filter.field_ne_empty)
  · exact filter.encodeOperand_operand

end Session
end Service
end RowFilter
