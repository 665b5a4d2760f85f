import RowFilter.Proofs.Query.Refusal
import RowFilter.Proofs.Sql.Selection

/-!
# Why there is no statement

A view without a name is refused first, then an unknown style of placeholders,
then the first filter that does not compile.  There is a statement for
everything else.
-/

namespace RowFilter
namespace Sql

variable {view : String} {options : SelectOptions}
variable {resolve : Resolver ColumnExpr} {filters : List Filter}

/-- A statement tells the filters that it was made for. -/
theorem select_filters
    {selection : Selection} (selected : select view options resolve filters = .ok selection) :
    selection.filters = filters := by
  simp only [select] at selected
  split at selected
  · cases selected
  · split at selected
    · cases selected
    · split at selected
      · split at selected
        · cases selected
        · cases selected
          rfl
      · cases selected
        rfl

/-! ## Faults -/

/-- The first of the filters that does not compile to a condition. -/
def FirstCompileFault (resolve : Resolver ColumnExpr) (filters : List Filter)
    (error : FilterError) : Prop :=
  ∃ place, FirstFault (fun filter => ∃ conjunct, IsConjunct backend resolve filter conjunct)
    (CompileFault backend resolve) filters place error

/-- Why there is no statement. -/
inductive SelectFault (view : String) (options : SelectOptions) (resolve : Resolver ColumnExpr)
    (filters : List Filter) : StatementError → Prop
  /-- The view has no name. -/
  | unnamed (empty : view = "") : SelectFault view options resolve filters .viewRequired
  /-- No style has the name. -/
  | unknownStyle (named : view ≠ "") (unknown : ParamStyle.ofName? options.style = none) :
      SelectFault view options resolve filters .unknownStyle
  /-- A filter does not compile. -/
  | filter (named : view ≠ "") {style : ParamStyle}
      (known : ParamStyle.ofName? options.style = some style)
      {error : FilterError} (fault : FirstCompileFault resolve filters error) :
      SelectFault view options resolve filters (.filter error)

/-- A fault of a statement is what its building fails with. -/
theorem select_of_fault
    {error : StatementError} (fault : SelectFault view options resolve filters error) :
    select view options resolve filters = .error error := by
  cases fault with
  | unnamed empty => rw [select, if_pos empty]
  | unknownStyle named unknown => simp [select, named, whereClause, openSink, unknown]
  | filter named known fault =>
      have failed := ((described_compile filters).eq_error_iff _).2 fault
      simp [select, named, whereClause, openSink, known, failed]

/-- Without a fault the view and the style are known, and all filters compile. -/
theorem selectFault_or_compiled (view : String) (options : SelectOptions)
    (resolve : Resolver ColumnExpr) (filters : List Filter) :
    (∃ error, SelectFault view options resolve filters error) ∨
      view ≠ "" ∧ ∃ style predicate?,
        ParamStyle.ofName? options.style = some style ∧
        (compile backend resolve filters).outcome = .ok predicate? := by
  by_cases named : view = ""
  · exact Or.inl ⟨_, .unnamed named⟩
  · cases known : ParamStyle.ofName? options.style with
    | none => exact Or.inl ⟨_, .unknownStyle named known⟩
    | some style =>
        cases compiled : (compile backend resolve filters).outcome with
        | error error =>
            exact Or.inl ⟨_, .filter named known
              (((described_compile filters).eq_error_iff error).1 compiled)⟩
        | ok predicate? => exact Or.inr ⟨named, style, predicate?, rfl, rfl⟩

/-- There is a statement, or it has a fault, and the fault is the one that is reported. -/
theorem described_select (view : String) (options : SelectOptions)
    (resolve : Resolver ColumnExpr) (filters : List Filter) :
    Described (select view options resolve filters)
      (fun selection => select view options resolve filters = .ok selection)
      (SelectFault view options resolve filters) := by
  apply Described.of_cases
  · exact fun _ selected => selected
  · exact fun _ fault => select_of_fault fault
  · rcases selectFault_or_compiled view options resolve filters with
      fault | ⟨named, style, predicate?, known, compiled⟩
    · exact Or.inr fault
    · obtain ⟨warnings, selected⟩ := select_of_compiled compiled named known
      exact Or.inl ⟨_, selected⟩

/-! ## Statements -/

/-- A statement over a view up to its restriction. -/
def SelectOptions.head (options : SelectOptions) (view : String) : String :=
  "SELECT " ++ (if options.distinct then "DISTINCT " else "") ++
    selectList options.quote options.columns ++ " FROM " ++ dottedText options.quote view

/-- Where there is a statement, all its filters compile, and it is restricted to their rows. -/
theorem exists_compiled_of_select
    {selection : Selection} (selected : select view options resolve filters = .ok selection) :
    ∃ predicate? style,
      (compile backend resolve filters).outcome = .ok predicate? ∧
      ParamStyle.ofName? options.style = some style ∧
      selection.statement = (restriction style predicate?).after (options.head view) := by
  rcases selectFault_or_compiled view options resolve filters with
    ⟨error, fault⟩ | ⟨named, style, predicate?, known, compiled⟩
  · rw [select_of_fault fault] at selected
    cases selected
  · obtain ⟨warnings, made⟩ := select_of_compiled compiled named known
    rw [made] at selected
    cases selected
    exact ⟨predicate?, style, compiled, known, rfl⟩

end Sql
end RowFilter
