import RowFilter.Proofs.Filter.Temporal
import RowFilter.Proofs.Query.Alignment
import RowFilter.Proofs.Sql.Meaning

/-!
# Dates and date-times in SQL conditions

No date is bound where a column of date-times is compared, and no date-time
where a column of dates is.  A condition on a column of date-times means what
its filter says; a condition on a column of dates differs from its filter on one
day at most.
-/

namespace RowFilter
namespace Sql

variable {columns : Columns} {quote : Bool}

/-! ## Values that are bound -/

/-- The column of a condition is declared and takes every value of the condition. -/
def Atom.IsAligned (columns : Columns) (condition : Atom) : Prop :=
  ∀ identifier, condition.column? = some identifier →
    ∃ spec, columns.lastDeclared? identifier.name = some spec ∧
      ∀ value ∈ condition.params, spec.type.Takes value

/-- A condition on several values binds exactly these. -/
theorem Atom.params_ofValues (column : Identifier) (values : List Value) :
    (ofValues column values).params = values := by
  cases values <;> rfl

/-- Whatever is bound for a condition on a column, the column takes it. -/
theorem takes_of_conditionCompiles
    {column : ColumnExpr} {condition : Condition} {predicate : Predicate}
    (rule : ConditionCompiles backend column condition predicate) :
    ∀ atom ∈ predicate.atoms, ∀ value ∈ atom.params, column.spec.type.Takes value := by
  have single {atom : Atom} {bound : Value} (params_eq : atom.params = [bound])
      (takes : column.spec.type.Takes bound) :
      ∀ other ∈ (Predicate.atom atom).atoms, ∀ value ∈ other.params,
        column.spec.type.Takes value := by
    simpa [params_eq] using takes
  have listed {bound : List Value} (takes : ∀ value ∈ bound, column.spec.type.Takes value) :
      ∀ atom ∈ (backend.among column bound).atoms, ∀ value ∈ atom.params,
        column.spec.type.Takes value := by
    simpa [backend, Atom.params_ofValues] using takes
  cases rule with
  | equalsMember enumeration found => exact single rfl (column.spec.type.takes_text _)
  | compares plain => exact single rfl (column.spec.type.takes_align _)
  | containsText asksText => exact single rfl (column.spec.type.takes_text _)
  | amongMembers enumeration =>
      refine listed (List.forall_mem_map.2 fun member _ => ?_)
      exact column.spec.type.takes_text member
  | amongValues plain =>
      refine listed (List.forall_mem_map.2 fun item _ => ?_)
      exact column.spec.type.takes_align item

/-- A filter compiles to conditions whose columns take what is bound for them. -/
theorem isAligned_of_compilesTo
    {filter : Filter} {predicate : Predicate}
    (compiles : CompilesTo backend (resolver columns quote) filter predicate) :
    ∀ atom ∈ predicate.atoms, atom.IsAligned columns := by
  obtain ⟨column, resolved, rule⟩ := compilesTo_iff.1 compiles
  obtain ⟨spec, declared, rfl⟩ := exists_spec_of_resolver resolved
  have takes := takes_of_conditionCompiles rule
  obtain ⟨condition, rfl, named⟩ := exists_atom_of_conditionCompiles rule
  intro atom member identifier hasColumn
  have isCondition : atom = condition := List.mem_singleton.1 member
  rw [isCondition] at hasColumn
  refine ⟨spec, ?_, takes atom member⟩
  rw [named identifier hasColumn, ColumnExpr.identifier, Identifier.name_ofName, declared]

/-! ## Comparisons with days and moments -/

/-- A filter that compares a declared column of the given type with a value. -/
structure ComparesColumn (columns : Columns) (quote : Bool) (type : ColumnType)
    (comparison : Comparison) (item : Value) (filter : Filter) (column : ColumnExpr) : Prop where
  /-- The field of the filter is the column. -/
  resolved : resolver columns quote filter.field = .ok column
  /-- The column has the type. -/
  type_eq : column.spec.type = type
  /-- The filter compares with the value. -/
  condition_eq : filter.condition = .test (.compare comparison) item

/-- On a column that is no enumeration the comparison is one with the aligned value. -/
theorem ComparesColumn.exists_predicate
    {type : ColumnType} {comparison : Comparison} {item : Value}
    {filter : Filter} {column : ColumnExpr}
    (compares : ComparesColumn columns quote type comparison item filter column)
    (plain : type ≠ .enumeration) (database : Database) (row : Row) :
    ∃ predicate, CompilesTo backend (resolver columns quote) filter predicate ∧
      predicate.eval (Atom.truth database row) =
        database.compares comparison (row column.name) (align type item) := by
  have noEnumeration : (backend.column column).isEnumeration = false := by
    simpa [backend, ColumnSpec.isEnumeration, compares.type_eq] using plain
  have rule : ConditionCompiles backend column (.test (.compare comparison) item)
      (backend.compare column comparison (align column.spec.type item)) :=
    .compares fun _ => noEnumeration
  rw [← compares.condition_eq] at rule
  refine ⟨_, compilesTo_iff.2 ⟨column, compares.resolved, rule⟩, ?_⟩
  simp [backend, ColumnExpr.identifier, Atom.truth, compares.type_eq]

/-- On a column of dates a moment stands for its date. -/
theorem ComparesColumn.exists_predicate_date
    {comparison : Comparison} {moment : DateTime} {filter : Filter} {column : ColumnExpr}
    (compares : ComparesColumn columns quote .date comparison (.dateTime moment) filter column)
    {database : Database} (calendar : database.KeepsCalendar)
    {row : Row} {day : Date} (holds : row column.name = .date day) :
    ∃ predicate, CompilesTo backend (resolver columns quote) filter predicate ∧
      (predicate.eval (Atom.truth database row) = true ↔ comparison.Relates day moment.date) := by
  obtain ⟨predicate, compiles, eval_eq⟩ :=
    compares.exists_predicate ColumnType.noConfusion database row
  refine ⟨predicate, compiles, ?_⟩
  rw [eval_eq, holds]
  exact calendar.compares_date comparison day moment.date

/-- On a column of date-times a day stands for its midnight. -/
theorem ComparesColumn.exists_predicate_timestamp
    {comparison : Comparison} {day : Date} {filter : Filter} {column : ColumnExpr}
    (compares : ComparesColumn columns quote .timestamp comparison (.date day) filter column)
    {database : Database} (calendar : database.KeepsCalendar)
    {row : Row} {moment : DateTime} (holds : row column.name = .dateTime moment) :
    ∃ predicate, CompilesTo backend (resolver columns quote) filter predicate ∧
      (predicate.eval (Atom.truth database row) = true ↔
        comparison.Relates moment (.midnight day)) := by
  obtain ⟨predicate, compiles, eval_eq⟩ :=
    compares.exists_predicate ColumnType.noConfusion database row
  refine ⟨predicate, compiles, ?_⟩
  rw [eval_eq, holds]
  exact calendar.compares_dateTime comparison moment (.midnight day)

/--
In the predicate of filters no date is bound on a column of date-times and no
date-time on a column of dates.  A comparison of a column of dates with a moment
is true of a day exactly when the midnight of the day stands in the relation to
the moment, but for the day of the moment: there the two differ when the moment
is not midnight and the comparison tells midnight from it.  A comparison of a
column of date-times with a day is true of exactly the moments that stand in the
relation to its midnight.
-/
theorem temporal_comparisons_agree_iff
    (columns : Columns) (quote : Bool)
    {database : Database} (calendar : database.KeepsCalendar) :
    (∀ filters predicate,
      (compile backend (resolver columns quote) filters).outcome = .ok (some predicate) →
      ∀ atom ∈ predicate.atoms, atom.IsAligned columns) ∧
    (∀ comparison moment filter column row day,
      ComparesColumn columns quote .date comparison (.dateTime moment) filter column →
      row column.name = .date day →
      ∃ predicate, CompilesTo backend (resolver columns quote) filter predicate ∧
        ((predicate.eval (Atom.truth database row) = true ↔
            comparison.Relates (.midnight day) moment) ↔
          ¬ChangesByDate comparison day moment)) ∧
    ∀ comparison day filter column row moment,
      ComparesColumn columns quote .timestamp comparison (.date day) filter column →
      row column.name = .dateTime moment →
      ∃ predicate, CompilesTo backend (resolver columns quote) filter predicate ∧
        (predicate.eval (Atom.truth database row) = true ↔
          comparison.Relates moment (.midnight day)) := by
  refine ⟨?_, ?_, ?_⟩
  · intro filters predicate compiled
    obtain ⟨conjuncts, pairs, assembles⟩ := compile_outcome_eq_ok_iff.1 compiled
    exact forall_atoms_of_assemble? pairs assembles
      fun filter predicate compiles => isAligned_of_compilesTo compiles
  · intro comparison moment filter column row day compares holds
    obtain ⟨predicate, compiles, eval_iff⟩ := compares.exists_predicate_date calendar holds
    refine ⟨predicate, compiles, ?_⟩
    rw [eval_iff]
    exact relates_date_iff_relates_midnight_iff
  · intro comparison day filter column row moment compares holds
    exact compares.exists_predicate_timestamp calendar holds

/-! ### The night of a leap day -/

namespace Sample

/-- Visits with the day of arrival and the moment of departure. -/
def visits : Columns :=
  [("Arrived", { type := .date }), ("left", { type := .timestamp })]

/-- Arrivals from the night of the leap day on. -/
def arrivedFrom : Filter where
  field := "arrived"
  kind := .dateTime
  condition := .test (.compare .ge) (.dateTime RowFilter.Sample.leapNight)
  field_ne_empty := by decide
  kind_of_mem := by simp [Condition.items, Value.kind]

/-- Departures from the leap day on. -/
def leftFrom : Filter where
  field := "LEFT"
  kind := .date
  condition := .test (.compare .ge) (.date RowFilter.Sample.leapNight.date)
  field_ne_empty := by decide
  kind_of_mem := by simp [Condition.items, Value.kind]

/-- A visit that begins on the leap day and ends in its last half second. -/
def visit : Row := fun name =>
  if name = "ARRIVED" then .date RowFilter.Sample.leapNight.date
  else .dateTime RowFilter.Sample.leapNight

theorem arrivedFrom_comparesColumn :
    ComparesColumn visits false .date .ge (.dateTime RowFilter.Sample.leapNight) arrivedFrom
      { name := "ARRIVED", spec := { type := .date }, quote := false } :=
  ⟨rfl, rfl, rfl⟩

theorem leftFrom_comparesColumn :
    ComparesColumn visits false .timestamp .ge (.date RowFilter.Sample.leapNight.date) leftFrom
      { name := "LEFT", spec := { type := .timestamp }, quote := false } :=
  ⟨rfl, rfl, rfl⟩

end Sample

/--
In the last half second of a leap day both things happen: the comparison on the
column of dates differs from its filter, and the one on the column of date-times
agrees.
-/
theorem temporal_comparisons_agree_iff_leapNight :
    Database.calendar.KeepsCalendar ∧
    (∃ predicate,
      (compile backend (resolver Sample.visits false)
        [Sample.arrivedFrom, Sample.leftFrom]).outcome = .ok (some predicate) ∧
      ∀ atom ∈ predicate.atoms, atom.IsAligned Sample.visits) ∧
    (∃ predicate,
      CompilesTo backend (resolver Sample.visits false) Sample.arrivedFrom predicate ∧
      ¬(predicate.eval (Atom.truth Database.calendar Sample.visit) = true ↔
        Comparison.ge.Relates (.midnight RowFilter.Sample.leapNight.date)
          RowFilter.Sample.leapNight)) ∧
    ∃ predicate,
      CompilesTo backend (resolver Sample.visits false) Sample.leftFrom predicate ∧
      predicate.eval (Atom.truth Database.calendar Sample.visit) = true := by
  have calendar := Database.calendar_keepsCalendar
  have compiled : ∃ predicate,
      (compile backend (resolver Sample.visits false)
        [Sample.arrivedFrom, Sample.leftFrom]).outcome = .ok (some predicate) := ⟨_, rfl⟩
  obtain ⟨predicate, outcome⟩ := compiled
  obtain ⟨aligned, onDates, onMoments⟩ :=
    temporal_comparisons_agree_iff Sample.visits false calendar
  obtain ⟨arrived, arrivedCompiles, arrivedAgrees⟩ :=
    onDates _ _ _ _ Sample.visit _ Sample.arrivedFrom_comparesColumn rfl
  obtain ⟨left, leftCompiles, leftTrue⟩ :=
    onMoments _ _ _ _ Sample.visit _ Sample.leftFrom_comparesColumn rfl
  have changes : ChangesByDate .ge RowFilter.Sample.leapNight.date RowFilter.Sample.leapNight :=
    ⟨rfl, by decide, .inr (.inl rfl)⟩
  have reached : DateTime.midnight RowFilter.Sample.leapNight.date ≤ RowFilter.Sample.leapNight :=
    RowFilter.Sample.leapNight.midnight_le
  exact ⟨calendar, ⟨predicate, outcome, aligned _ _ outcome⟩,
    ⟨arrived, arrivedCompiles, fun agrees => arrivedAgrees.1 agrees changes⟩,
    left, leftCompiles, leftTrue.2 reached⟩

end Sql
end RowFilter
