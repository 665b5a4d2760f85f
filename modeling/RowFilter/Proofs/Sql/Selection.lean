import RowFilter.Proofs.Sql.Shape

/-!
# Statements over a view

A statement is restricted exactly when there are filters: compiled filters have
a predicate, its text is never empty, and so nothing ever stands in its place.
The statement that counts the rows has the same restriction as the one that
selects them.
-/

namespace RowFilter
namespace Sql

/-! ## The restriction of a statement -/

/-- What follows a statement over the rows of a predicate, if there is one. -/
def restriction (style : ParamStyle) : Option Predicate → Clause
  | none => { sql := "", params := ({ style } : Sink).params }
  | some predicate =>
      { sql := " WHERE " ++ (predicate.render { style }).1
        params := (predicate.render { style }).2.params }

/-- A statement with what follows it. -/
def Clause.after (head : String) (clause : Clause) : Clause :=
  { clause with sql := head ++ clause.sql }

/-- A statement is restricted exactly when there is a predicate. -/
theorem restriction_sql_eq_empty_iff {style : ParamStyle} {predicate? : Option Predicate} :
    (restriction style predicate?).sql = "" ↔ predicate? = none := by
  cases predicate? <;> simp [restriction, String.append_eq_empty_iff]

variable {resolve : Resolver ColumnExpr} {filters : List Filter} {predicate? : Option Predicate}

/-! ## The statement and its count -/

/-- The clause of a statement, put after a text, is the restriction after that text. -/
theorem exists_clause_of_compiled
    (compiled : (compile backend resolve filters).outcome = .ok predicate?)
    {name : String} {style : ParamStyle} (known : ParamStyle.ofName? name = some style) :
    ∃ clause,
      whereClause { style := name, whenEmpty := "" } resolve filters =
        .ok (clause, (compile backend resolve filters).warnings) ∧
      clause.params = (restriction style predicate?).params ∧
      ∀ head, restricted head clause.sql = head ++ (restriction style predicate?).sql := by
  cases predicate? with
  | none =>
      obtain rfl := (compiled_eq_none_iff compiled).1 rfl
      have clause := @whereClause_nil { style := name, whenEmpty := "" } style known resolve
      refine ⟨_, clause, rfl, fun head => ?_⟩
      simp [introduced, restricted, restriction]
  | some predicate =>
      have clause := @whereClause_some resolve filters predicate compiled
        { style := name, whenEmpty := "" } style known
      refine ⟨_, clause, rfl, fun head => ?_⟩
      -- The keyword alone makes the clause a text that is not empty.
      have nonempty : "WHERE " ++ (predicate.render { style }).1 ≠ "" := by
        simp [String.append_eq_empty_iff]
      have keyword (body : String) : " WHERE " ++ body = " " ++ ("WHERE " ++ body) := by
        rw [← String.append_assoc]
        rfl
      rw [restriction, keyword, ← String.append_assoc]
      exact if_neg nonempty

/-- Compiled filters, a view with a name and a known style give a statement. -/
theorem select_of_compiled
    (compiled : (compile backend resolve filters).outcome = .ok predicate?)
    {view : String} (viewNamed : view ≠ "")
    {options : SelectOptions} {style : ParamStyle}
    (known : ParamStyle.ofName? options.style = some style) :
    ∃ warnings,
      select view options resolve filters =
        .ok {
          statement := (restriction style predicate?).after
            ("SELECT " ++ (if options.distinct then "DISTINCT " else "") ++
              selectList options.quote options.columns ++ " FROM " ++
              dottedText options.quote view)
          count := if options.count then
              some ((restriction style predicate?).after
                ("SELECT COUNT(*) FROM " ++ dottedText options.quote view))
            else none
          filters
          warnings } := by
  obtain ⟨clause, made, params_eq, sql_eq⟩ := exists_clause_of_compiled compiled known
  cases counted : options.count with
  | false =>
      refine ⟨(compile backend resolve filters).warnings, ?_⟩
      simp only [select, if_neg viewNamed, made, counted, sql_eq, params_eq]
      rfl
  | true =>
      refine ⟨(compile backend resolve filters).warnings ++
        (compile backend resolve filters).warnings, ?_⟩
      simp only [select, if_neg viewNamed, made, counted, sql_eq, params_eq]
      rfl

/--
For compiled filters there is a statement exactly when the view has a name and
the style is known.
-/
theorem exists_select_iff
    (compiled : (compile backend resolve filters).outcome = .ok predicate?)
    (view : String) (options : SelectOptions) :
    (∃ selection, select view options resolve filters = .ok selection) ↔
      view ≠ "" ∧ ∃ style, ParamStyle.ofName? options.style = some style := by
  constructor
  · rintro ⟨selection, selected⟩
    constructor
    · rintro rfl
      cases selected
    · cases named : ParamStyle.ofName? options.style with
      | some style => exact ⟨style, rfl⟩
      | none =>
          unfold select at selected
          split at selected
          · cases selected
          · simp only [whereClause, openSink, named] at selected
            cases selected
  · rintro ⟨viewNamed, style, known⟩
    obtain ⟨warnings, selected⟩ := select_of_compiled compiled viewNamed known
    exact ⟨_, selected⟩

/--
Filters that compile never fall open.  The text of their predicate is not
empty, so nothing else takes its place in a clause; a statement over a view is
restricted exactly when there are filters, and its count has the same
restriction with the same parameters.
-/
theorem select_restricted_iff_filtered
    (resolve : Resolver ColumnExpr)
    {filters : List Filter}
    {predicate? : Option Predicate}
    (compiled : (compile backend resolve filters).outcome = .ok predicate?) :
    (filters ≠ [] →
      ∃ predicate, predicate? = some predicate ∧
        (∀ sink, (predicate.render sink).1 ≠ "") ∧
        ∀ (options : ClauseOptions) (style : ParamStyle),
          ParamStyle.ofName? options.style = some style →
          whereClause options resolve filters =
            .ok ({ sql := (if options.keyword then "WHERE " else "") ++
                     (predicate.render (options.sink style)).1
                   params := (predicate.render (options.sink style)).2.params },
              (compile backend resolve filters).warnings)) ∧
    (∀ style, (restriction style predicate?).sql ≠ "" ↔ filters ≠ []) ∧
    ∀ (view : String) (options : SelectOptions),
      ((∃ selection, select view options resolve filters = .ok selection) ↔
        view ≠ "" ∧ ∃ style, ParamStyle.ofName? options.style = some style) ∧
      ∀ style, view ≠ "" → ParamStyle.ofName? options.style = some style →
        ∃ warnings,
          select view options resolve filters =
            .ok {
              statement := (restriction style predicate?).after
                ("SELECT " ++ (if options.distinct then "DISTINCT " else "") ++
                  selectList options.quote options.columns ++ " FROM " ++
                  dottedText options.quote view)
              count := if options.count then
                  some ((restriction style predicate?).after
                    ("SELECT COUNT(*) FROM " ++ dottedText options.quote view))
                else none
              filters
              warnings } := by
  refine ⟨fun nonempty => ?_, fun style => ?_, fun view options => ⟨?_, ?_⟩⟩
  · cases predicate? with
    | none => exact absurd ((compiled_eq_none_iff compiled).1 rfl) nonempty
    | some predicate =>
        refine ⟨predicate, rfl, (flat_of_compiled compiled).render_ne_empty, ?_⟩
        intro options style known
        exact whereClause_some compiled known
  · rw [Ne, restriction_sql_eq_empty_iff, compiled_eq_none_iff compiled]
  · exact exists_select_iff compiled view options
  · intro style viewNamed known
    exact select_of_compiled compiled viewNamed known

/-- A membership that names no member of an enumeration still restricts the statement. -/
theorem select_restricted_iff_filtered_stranger :
    (compile backend (resolver Sample.tasks false) [Sample.inStates ["Lost"]]).outcome =
      .ok (some (.atom .never)) ∧
    ∃ warnings,
      select "crm.tasks" { style := "qmark", distinct := true, count := true }
          (resolver Sample.tasks false) [Sample.inStates ["Lost"]] =
        .ok {
          statement :=
            { sql := "SELECT DISTINCT * FROM crm.tasks WHERE 1=0", params := .positional [] }
          count := some
            { sql := "SELECT COUNT(*) FROM crm.tasks WHERE 1=0", params := .positional [] }
          filters := [Sample.inStates ["Lost"]]
          warnings } := by
  have compiled :
      (compile backend (resolver Sample.tasks false) [Sample.inStates ["Lost"]]).outcome =
        .ok (some (.atom .never)) := rfl
  obtain ⟨_, _, selects⟩ :=
    select_restricted_iff_filtered (resolver Sample.tasks false) compiled
  exact ⟨compiled,
    (selects "crm.tasks" { style := "qmark", distinct := true, count := true }).2 .question
      (by decide) rfl⟩

end Sql
end RowFilter
