import RowFilter.Proofs.Sql.Written
import RowFilter.Sql.Statement

/-!
# The text of a WHERE clause

The text of a condition is never empty, so filters that compile are never
replaced by the condition that stands where there is nothing to filter.
-/

namespace RowFilter
namespace Sql

/-! ## Written text is never empty -/

theorem WrittenAtom.text_ne_empty (condition : WrittenAtom) : condition.text ≠ "" := by
  cases condition <;> simp [text, String.append_eq_empty_iff]

theorem Token.text_ne_empty (token : Token WrittenAtom) : token.text ≠ "" := by
  cases token with
  | leaf condition => exact condition.text_ne_empty
  | connective joining => simp [text, String.append_eq_empty_iff]
  | opening => decide
  | closing => decide

/-- Tokens have some text. -/
theorem conditionText_ne_empty {tokens : List (Token WrittenAtom)} (nonempty : tokens ≠ []) :
    conditionText tokens ≠ "" := by
  cases tokens with
  | nil => exact absurd rfl nonempty
  | cons token tokens =>
      simp [conditionText, String.append_eq_empty_iff, token.text_ne_empty]

/-- A flat predicate has a token. -/
theorem Predicate.Flat.tokens_ne_nil {predicate : Predicate} (flat : predicate.Flat) :
    predicate.tokens ≠ [] := by
  intro empty
  have reads := flat.read?_tokens
  rw [empty] at reads
  cases reads

theorem writtenAll_ne_nil {tokens : List (Token Atom)} (nonempty : tokens ≠ []) (sink : Sink) :
    writtenAll sink tokens ≠ [] := by
  cases tokens with
  | nil => exact absurd rfl nonempty
  | cons token tokens => simp [writtenAll]

/-- A flat predicate renders to text that is not empty. -/
theorem Predicate.Flat.render_ne_empty
    {predicate : Predicate} (flat : predicate.Flat) (sink : Sink) :
    (predicate.render sink).1 ≠ "" := by
  rw [predicate.render_eq]
  exact conditionText_ne_empty (writtenAll_ne_nil flat.tokens_ne_nil sink)

/-! ## The clause of filters -/

/-- The empty sink of a clause. -/
def ClauseOptions.sink (options : ClauseOptions) (style : ParamStyle) : Sink :=
  { style, stem := options.stem, next := options.start }

/-- The text of a clause whose condition has the given tokens. -/
def ClauseOptions.clauseText (options : ClauseOptions) (tokens : List (Token WrittenAtom)) :
    String :=
  (if options.keyword then "WHERE " else "") ++ conditionText tokens

/-- Options with a known style open a sink. -/
theorem openSink_eq
    {options : ClauseOptions} {style : ParamStyle}
    (known : ParamStyle.ofName? options.style = some style) :
    openSink options.style options.stem options.start = .ok (options.sink style) := by
  rw [openSink, known, ClauseOptions.sink]

/-- A condition that has text follows the keyword, where one is wanted. -/
theorem introduced_eq {body : String} (nonempty : body ≠ "") (keyword : Bool) :
    introduced keyword body = (if keyword then "WHERE " else "") ++ body := by
  rw [introduced, if_neg nonempty]
  split
  · rfl
  · rw [String.empty_append]

/-- Without filters the clause is the condition that stands where there is nothing to filter. -/
theorem whereClause_nil
    {options : ClauseOptions} {style : ParamStyle}
    (known : ParamStyle.ofName? options.style = some style)
    (resolve : Resolver ColumnExpr) :
    whereClause options resolve [] =
      .ok ({ sql := introduced options.keyword options.whenEmpty
             params := (options.sink style).params }, []) := by
  rw [whereClause, openSink_eq known]
  rfl

variable {resolve : Resolver ColumnExpr} {filters : List Filter} {predicate? : Option Predicate}

/-- Compilation gives no predicate exactly for no filters. -/
theorem compiled_eq_none_iff
    (compiled : (compile backend resolve filters).outcome = .ok predicate?) :
    predicate? = none ↔ filters = [] := by
  obtain ⟨conjuncts, pairs, rfl⟩ := compile_outcome_eq_ok_iff.1 compiled
  rw [assemble?_eq_none_iff]
  constructor
  · rintro rfl
    exact List.forall₂_nil_right_iff.1 pairs
  · rintro rfl
    exact List.forall₂_nil_left_iff.1 pairs

/-- What compilation gives is flat. -/
theorem flat_of_compiled {predicate : Predicate}
    (compiled : (compile backend resolve filters).outcome = .ok (some predicate)) :
    predicate.Flat := by
  obtain ⟨conjuncts, pairs, assembles⟩ := compile_outcome_eq_ok_iff.1 compiled
  exact flat_of_assemble? pairs assembles

/-- The clause of a predicate is its text, whatever stands where there is nothing to filter. -/
theorem whereClause_some
    {predicate : Predicate}
    (compiled : (compile backend resolve filters).outcome = .ok (some predicate))
    {options : ClauseOptions} {style : ParamStyle}
    (known : ParamStyle.ofName? options.style = some style) :
    whereClause options resolve filters =
      .ok ({ sql := (if options.keyword then "WHERE " else "") ++
               (predicate.render (options.sink style)).1
             params := (predicate.render (options.sink style)).2.params },
        (compile backend resolve filters).warnings) := by
  have written := (flat_of_compiled compiled).render_ne_empty (options.sink style)
  simp only [whereClause, openSink_eq known, compiled, if_neg written, introduced_eq written]

/-- Filters that compile become a flat predicate, whose tokens and values make up the clause. -/
theorem exists_whereClause_eq
    {options : ClauseOptions} {style : ParamStyle}
    (known : ParamStyle.ofName? options.style = some style)
    (nonempty : filters ≠ [])
    (compiled : (compile backend resolve filters).outcome = .ok predicate?) :
    ∃ conjuncts predicate,
      List.Forall₂ (IsConjunct backend resolve) filters conjuncts ∧
      assemble? backend conjuncts = some predicate ∧
      predicate.Flat ∧
      whereClause options resolve filters =
        .ok ({ sql := options.clauseText (writtenAll (options.sink style) predicate.tokens)
               params := (predicate.render (options.sink style)).2.params },
          (compile backend resolve filters).warnings) := by
  obtain ⟨conjuncts, pairs, assembles⟩ := compile_outcome_eq_ok_iff.1 compiled
  cases predicate? with
  | none => exact absurd ((compiled_eq_none_iff compiled).1 rfl) nonempty
  | some predicate =>
      refine ⟨conjuncts, predicate, pairs, assembles, flat_of_compiled compiled, ?_⟩
      rw [whereClause_some compiled known, ClauseOptions.clauseText, predicate.render_eq]

end Sql
end RowFilter
