import RowFilter.Proofs.Query.Assembly

/-!
# Translations between backends

A translation carries the expressions and predicates of one backend over to
another one and respects all that compilation asks of them.  So a run over the
second backend is the image of the run over the first: no rule of compilation
sees which backend it works for.
-/

namespace RowFilter

variable {Expression Predicate ImageExpression ImagePredicate : Type}

/-- A map from one backend to another that respects all operations. -/
structure Translation (source : Backend Expression Predicate)
    (target : Backend ImageExpression ImagePredicate) where
  /-- The image of an expression. -/
  expression : Expression → ImageExpression
  /-- The image of a predicate. -/
  predicate : Predicate → ImagePredicate
  /-- The same is known of the column of an image. -/
  column_eq : ∀ operand, target.column (expression operand) = source.column operand
  /-- Comparisons are carried over. -/
  compare_eq : ∀ operand comparison value,
    predicate (source.compare operand comparison value) =
      target.compare (expression operand) comparison value
  /-- Memberships are carried over. -/
  among_eq : ∀ operand values,
    predicate (source.among operand values) = target.among (expression operand) values
  /-- Matching is carried over. -/
  like_eq : ∀ operand pattern,
    predicate (source.like operand pattern) = target.like (expression operand) pattern
  /-- Conjunctions are carried over. -/
  both_eq : ∀ left right,
    predicate (source.both left right) = target.both (predicate left) (predicate right)
  /-- Disjunctions are carried over. -/
  either_eq : ∀ left right,
    predicate (source.either left right) = target.either (predicate left) (predicate right)

/-! ## Images of what compilation gives -/

/-- The same warning with the image of the predicate. -/
def Compiled.map (image : Predicate → ImagePredicate) (compiled : Compiled Predicate) :
    Compiled ImagePredicate where
  predicate := image compiled.predicate
  warning := compiled.warning

/-- The same calls and warnings with the image of what came out. -/
def Compilation.map {Result Image : Type} (image : Result → Image)
    (compilation : Compilation Result) : Compilation Image where
  calls := compilation.calls
  warnings := compilation.warnings
  outcome := compilation.outcome.map image

section

variable {Result Image : Type} (image : Result → Image) (compilation : Compilation Result)

@[simp] theorem Compilation.calls_map : (compilation.map image).calls = compilation.calls := rfl

@[simp] theorem Compilation.warnings_map :
    (compilation.map image).warnings = compilation.warnings := rfl

@[simp] theorem Compilation.outcome_map :
    (compilation.map image).outcome = compilation.outcome.map image := rfl

end

variable {source : Backend Expression Predicate} {target : Backend ImageExpression ImagePredicate}

namespace Translation

variable (translation : Translation source target)

/-! ## One filter -/

theorem compileTest_eq
    (field : String) (kind : Kind) (asked : Test) (item : Value) (operand : Expression) :
    compileTest target field kind asked item (translation.expression operand) =
      (compileTest source field kind asked item operand).map translation.predicate := by
  cases asked with
  | compare comparison =>
      cases comparison with
      | eq =>
          simp only [compileTest, translation.column_eq]
          split
          · cases matchingMember? (source.column operand).members item with
            | some member => simp [Except.map, translation.compare_eq]
            | none => rfl
          · simp [Except.map, translation.compare_eq]
      | _ => simp [compileTest, Except.map, translation.column_eq, translation.compare_eq]
  | _ => cases item <;> simp [compileTest, Except.map, translation.like_eq]

theorem compileAmong_eq (field : String) (items : List Value) (operand : Expression) :
    compileAmong target field items (translation.expression operand) =
      (compileAmong source field items operand).map translation.predicate := by
  simp only [compileAmong, translation.column_eq]
  split <;> simp [Compiled.map, translation.among_eq]

variable {resolve : Resolver Expression} {resolveImage : Resolver ImageExpression}

/-- A field is refused by both resolvers for the same reason, or its expression is the image. -/
def Resolves (resolve : Resolver Expression) (resolveImage : Resolver ImageExpression)
    (filter : Filter) : Prop :=
  resolveImage filter.field = (resolve filter.field).map translation.expression

variable {translation}

/-- A filter compiles over the target to the image of what it compiles to over the source. -/
theorem compileFilter_eq
    {filter : Filter} (resolves : translation.Resolves resolve resolveImage filter) :
    compileFilter target resolveImage filter =
      (compileFilter source resolve filter).map (Compiled.map translation.predicate) := by
  rw [Resolves] at resolves
  rw [compileFilter, compileFilter, resolves]
  cases resolve filter.field with
  | error error => rfl
  | ok operand =>
      simp only [Except.map]
      cases filter.condition with
      | test asked item =>
          simp only [translation.compileTest_eq]
          cases compileTest source filter.field filter.kind asked item operand <;> rfl
      | among items => simp only [translation.compileAmong_eq]

/-! ## Lists of filters -/

/--
Filters compile over the target to the images of their conjuncts, with the same
calls and warnings.
-/
theorem compileEach_eq
    {filters : List Filter}
    (resolves : ∀ filter ∈ filters, translation.Resolves resolve resolveImage filter) :
    compileEach target resolveImage filters =
      (compileEach source resolve filters).map
        (List.map (Conjunct.map translation.predicate)) := by
  induction filters with
  | nil => rfl
  | cons filter filters inductionHypothesis =>
      rw [List.forall_mem_cons] at resolves
      rw [compileEach, compileEach, compileFilter_eq resolves.1, inductionHypothesis resolves.2]
      cases compileFilter source resolve filter with
      | error error => rfl
      | ok compiled =>
          simp only [Except.map, Compiled.map, Compilation.map]
          cases (compileEach source resolve filters).outcome <;> rfl

/-- A run over the image of a backend is the image of the run, with the same calls and warnings. -/
theorem compile_eq
    {filters : List Filter}
    (resolves : ∀ filter ∈ filters, translation.Resolves resolve resolveImage filter) :
    compile target resolveImage filters =
      (compile source resolve filters).map (Option.map translation.predicate) := by
  rw [compile, compile, compileEach_eq resolves]
  simp only [Compilation.map]
  cases (compileEach source resolve filters).outcome with
  | error error => rfl
  | ok conjuncts =>
      simp only [Except.map]
      rw [assemble?_map translation.both_eq translation.either_eq]

end Translation
end RowFilter
