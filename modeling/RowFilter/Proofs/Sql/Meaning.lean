import RowFilter.Proofs.Query.Like
import RowFilter.Proofs.Query.Row
import RowFilter.Proofs.Sql.Clause

/-!
# The meaning of a WHERE clause

Read token by token, with the parameters that come with it, the text of a
condition denotes a predicate that holds of a row exactly when the filters ask
for the row.
-/

namespace RowFilter
namespace Sql

/-- The truth of a condition on a row. -/
def Atom.truth (database : Database) (row : Row) : Atom → Bool
  | compare column comparison value => database.compares comparison (row column.name) value
  | among column first others =>
      (first :: others).any fun value => database.compares .eq (row column.name) value
  | like column (.text pattern) =>
      matchesPattern pattern.toList (Text.upperChars (database.textOf (row column.name)).toList)
  | like _ _ => false
  | never => false

/-- A condition on several values is true when one of them equals the column. -/
theorem Atom.truth_ofValues
    (database : Database) (row : Row) (column : Identifier) (values : List Value) :
    (ofValues column values).truth database row =
      values.any fun value => database.compares .eq (row column.name) value := by
  cases values <;> rfl

/-! ## One filter -/

variable {columns : Columns} {quote : Bool}

/-- A compiled condition is true in the rows that the condition holds in. -/
theorem eval_iff_holds_of_conditionCompiles
    (database : Database) (row : Row)
    {column : ColumnExpr} {condition : Condition} {predicate : Predicate}
    (rule : ConditionCompiles backend column condition predicate) :
    predicate.eval (Atom.truth database row) = true ↔
      condition.Holds database column.spec (row column.name) := by
  have compared (comparison : Comparison) (value : Value) :
      (backend.compare column comparison value).eval (Atom.truth database row) =
        database.compares comparison (row column.name) value := by
    simp [backend, ColumnExpr.identifier, Atom.truth]
  have listed (values : List Value) :
      (backend.among column values).eval (Atom.truth database row) =
        values.any fun value => database.compares .eq (row column.name) value := by
    simp [backend, ColumnExpr.identifier, Atom.truth_ofValues]
  cases rule with
  | @equalsMember item member enumeration found =>
      replace enumeration : column.spec.isEnumeration = true := enumeration
      have named := matchingMember?_eq_some_iff.1 found
      rw [compared, Condition.Holds, if_pos ⟨rfl, enumeration⟩]
      constructor
      · exact fun holds => ⟨member, named, holds⟩
      · rintro ⟨other, otherNamed, holds⟩
        rwa [named.unique otherNamed]
  | @compares comparison item plain =>
      have otherwise : ¬(comparison = .eq ∧ column.spec.isEnumeration = true) := by
        rintro ⟨equality, enumeration⟩
        exact Bool.false_ne_true ((plain equality).symm.trans enumeration)
      rw [compared, Condition.Holds, if_neg otherwise]
      rfl
  | @containsText asked content asksText =>
      have matched :
          (backend.like column (containsPattern content)).eval (Atom.truth database row) =
            matchesPattern (containsPattern content).toList
              (Text.upperChars (database.textOf (row column.name)).toList) := by
        simp [backend, ColumnExpr.identifier, Atom.truth]
      rw [matched, matchesPattern_containsPattern_iff]
      rcases asksText with rfl | rfl <;> simp [Condition.Holds]
  | @amongMembers items enumeration =>
      replace enumeration : column.spec.isEnumeration = true := enumeration
      rw [listed, Condition.Holds, if_pos enumeration, List.any_map, List.any_eq_true]
      simp only [mem_namedMembers_iff, and_assoc]
      rfl
  | @amongValues items plain =>
      replace plain : column.spec.isEnumeration = false := plain
      rw [listed, Condition.Holds, if_neg (by simp [plain]), List.any_map, List.any_eq_true]
      rfl

/-- The predicate of a filter is true of the rows that the filter asks for. -/
theorem eval_iff_holds_of_compilesTo
    (database : Database) (row : Row) {filter : Filter} {predicate : Predicate}
    (compiles : CompilesTo backend (resolver columns quote) filter predicate) :
    predicate.eval (Atom.truth database row) = true ↔ filter.Holds columns database row := by
  obtain ⟨column, resolved, rule⟩ := compilesTo_iff.1 compiles
  obtain ⟨spec, declared, rfl⟩ := exists_spec_of_resolver resolved
  rw [eval_iff_holds_of_conditionCompiles database row rule, Filter.Holds, declared]
  simp

/-! ## A WHERE clause -/

/--
Filters that compile have a clause, made of tokens that denote a formula with
the parameters of the clause.  The formula is true of exactly the rows that the
filters ask for.
-/
theorem whereClause_denotes_satisfied
    (columns : Columns)
    (quote : Bool)
    (options : ClauseOptions)
    {style : ParamStyle}
    (known : ParamStyle.ofName? options.style = some style)
    {filters : List Filter}
    (nonempty : filters ≠ [])
    {predicate? : Option Predicate}
    (compiled :
      (compile backend (resolver columns quote) filters).outcome = .ok predicate?) :
    ∃ clause warnings tokens formula,
      whereClause options (resolver columns quote) filters = .ok (clause, warnings) ∧
      clause.sql = (if options.keyword then "WHERE " else "") ++ conditionText tokens ∧
      denoted? clause.params tokens = some formula ∧
      ∀ (database : Database) (row : Row),
        formula.eval (Atom.truth database row) = true ↔
          Satisfied (Filter.Holds columns database row) filters := by
  obtain ⟨conjuncts, predicate, pairs, assembles, flat, clause⟩ :=
    exists_whereClause_eq known nonempty compiled
  refine ⟨_, _, _, predicate, clause, rfl, flat.denoted?_writtenAll rfl rfl, ?_⟩
  intro database row
  apply (evaluation (Atom.truth database row)).holds_assemble?_iff_satisfied pairs assembles
  intro filter _ conjunct compiles
  exact eval_iff_holds_of_compilesTo database row compiles

/-! ### Two searches and an age -/

namespace Sample

/-- The columns of people, in the spelling of their declarations. -/
def people : Columns :=
  [("Name", { type := .text }), ("city", { type := .text }), ("AGE", { type := .number })]

end Sample

/-- The comparison comes first, and the searches stand together in parentheses. -/
example :
    (whereClause { style := "pyformat", start := 7 } (resolver Sample.people false)
        RowFilter.Sample.mixed).toOption.map (fun made => made.1.sql) =
      some ("WHERE AGE > %(p7)s AND " ++
        "(UPPER(NAME) LIKE %(p8)s ESCAPE '\\' OR UPPER(CITY) LIKE %(p9)s ESCAPE '\\')") := by
  rfl

/--
Two searches and a comparison, with names that are counted from seven, denote
what they ask for in every row of every database.
-/
theorem whereClause_denotes_satisfied_mixed :
    ParamStyle.ofName? "pyformat" = some .named ∧
    (∃ predicate?, (compile backend (resolver Sample.people false) RowFilter.Sample.mixed).outcome =
      .ok predicate?) ∧
    ∃ clause warnings tokens formula,
      whereClause { style := "pyformat", start := 7 } (resolver Sample.people false)
        RowFilter.Sample.mixed = .ok (clause, warnings) ∧
      clause.sql = "WHERE " ++ conditionText tokens ∧
      denoted? clause.params tokens = some formula ∧
      ∀ (database : Database) (row : Row),
        formula.eval (Atom.truth database row) = true ↔
          Satisfied (Filter.Holds Sample.people database row) RowFilter.Sample.mixed := by
  have known : ParamStyle.ofName? "pyformat" = some .named := rfl
  have nonempty : RowFilter.Sample.mixed ≠ [] := by decide
  have compiled : ∃ predicate?,
      (compile backend (resolver Sample.people false) RowFilter.Sample.mixed).outcome =
        .ok predicate? := ⟨_, rfl⟩
  obtain ⟨predicate?, outcome⟩ := compiled
  exact ⟨known, ⟨predicate?, outcome⟩,
    whereClause_denotes_satisfied Sample.people false { style := "pyformat", start := 7 }
      known nonempty outcome⟩

end Sql
end RowFilter
