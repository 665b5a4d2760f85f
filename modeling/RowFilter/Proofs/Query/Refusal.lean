import RowFilter.Proofs.Query.Assembly

/-!
# Why compilation fails

A filter does not compile when its field cannot be resolved, when it equates an
enumeration with what is no member, or when it looks for a text among values of
another kind.  Nothing else fails, and a list of filters fails with its first
filter that does not compile.
-/

namespace RowFilter

variable {Expression Predicate : Type}

/-- Why a test on an expression does not compile. -/
inductive TestFault (backend : Backend Expression Predicate) (expression : Expression)
    (field : String) (kind : Kind) : Test → Value → FilterError → Prop
  /-- No member of the enumeration has the upper-case form of the value. -/
  | notMember {item : Value}
      (enumeration : (backend.column expression).isEnumeration = true)
      (stranger : ∀ member ∈ (backend.column expression).members,
        Text.upper member ≠ Text.upper item.plain) :
      TestFault backend expression field kind (.compare .eq) item
        (.notMember field (enumLabel field (backend.column expression)) item)
  /-- A text is looked for among values of another kind. -/
  | unsupported {asked : Test} {item : Value}
      (asksText : asked = .contains ∨ asked = .search) (otherKind : item.kind ≠ some .text) :
      TestFault backend expression field kind asked item (.unsupported field (.test asked) kind)

/-- Why a filter does not compile. -/
inductive CompileFault (backend : Backend Expression Predicate) (resolve : Resolver Expression)
    (filter : Filter) : FilterError → Prop
  /-- The field cannot be resolved. -/
  | unresolved {error : FilterError} (failed : resolve filter.field = .error error) :
      CompileFault backend resolve filter error
  /-- The test does not compile. -/
  | test {expression : Expression} (resolved : resolve filter.field = .ok expression)
      {asked : Test} {item : Value} (condition : filter.condition = .test asked item)
      {error : FilterError}
      (fault : TestFault backend expression filter.field filter.kind asked item error) :
      CompileFault backend resolve filter error

variable {backend : Backend Expression Predicate} {resolve : Resolver Expression}

/-! ## One filter -/

theorem matchingMember?_eq_none_iff {members : List String} {value : Value} :
    matchingMember? members value = none ↔
      ∀ member ∈ members, Text.upper member ≠ Text.upper value.plain := by
  simp [matchingMember?, List.find?_eq_none]

/-- A test is refused exactly for its faults. -/
theorem compileTest_eq_error_iff
    {field : String} {kind : Kind}
    {asked : Test} {item : Value} {expression : Expression} {error : FilterError} :
    compileTest backend field kind asked item expression = .error error ↔
      TestFault backend expression field kind asked item error := by
  constructor
  · intro failed
    cases asked with
    | compare comparison =>
        cases comparison with
        | eq =>
            simp only [compileTest] at failed
            split at failed
            · next enumeration =>
                split at failed
                · cases failed
                · next nothing =>
                    cases failed
                    exact .notMember enumeration (matchingMember?_eq_none_iff.1 nothing)
            · cases failed
        | _ => cases failed
    | contains =>
        cases item with
        | text content => cases failed
        | _ =>
            cases failed
            exact .unsupported (.inl rfl) (by simp [Value.kind])
    | search =>
        cases item with
        | text content => cases failed
        | _ =>
            cases failed
            exact .unsupported (.inr rfl) (by simp [Value.kind])
  · intro fault
    cases fault with
    | notMember enumeration stranger =>
        simp [compileTest, enumeration, matchingMember?_eq_none_iff.2 stranger]
    | unsupported asksText otherKind =>
        cases item with
        | text content => exact absurd rfl otherKind
        | _ => rcases asksText with rfl | rfl <;> rfl

/-- A filter is refused exactly for its faults. -/
theorem compileFilter_eq_error_iff {filter : Filter} {error : FilterError} :
    compileFilter backend resolve filter = .error error ↔
      CompileFault backend resolve filter error := by
  constructor
  · intro failed
    unfold compileFilter at failed
    split at failed
    · next unresolved =>
        cases failed
        exact .unresolved unresolved
    · next expression resolved =>
        split at failed
        · next asked item condition =>
            split at failed
            · next testFailed =>
                cases failed
                exact .test resolved condition (compileTest_eq_error_iff.1 testFailed)
            · cases failed
        · cases failed
  · intro fault
    cases fault with
    | unresolved failed => rw [compileFilter, failed]
    | test resolved condition fault =>
        simp only [compileFilter, resolved, condition, compileTest_eq_error_iff.2 fault]

/-- A filter becomes a conjunct, or is refused for its fault. -/
theorem described_conjunct (filter : Filter) :
    Described (conjunct backend resolve filter) (IsConjunct backend resolve filter)
      (CompileFault backend resolve filter) := by
  constructor
  · intro result
    exact conjunct_eq_ok_iff
  · intro error
    rw [← compileFilter_eq_error_iff, conjunct]
    cases compileFilter backend resolve filter <;> simp [Except.map]

/-! ## Lists of filters -/

/-- Filters compile when each of them does, and else fail with the first that does not. -/
theorem described_compile (filters : List Filter) :
    Described (compile backend resolve filters).outcome
      (fun predicate? => ∃ conjuncts,
        List.Forall₂ (IsConjunct backend resolve) filters conjuncts ∧
          predicate? = assemble? backend conjuncts)
      (fun error => ∃ place,
        FirstFault (fun filter => ∃ conjunct, IsConjunct backend resolve filter conjunct)
          (CompileFault backend resolve) filters place error) := by
  have each : Described (filters.mapM (conjunct backend resolve)) _ _ :=
    .mapM fun filter _ => described_conjunct filter
  rw [compile, compileEach_outcome_eq_mapM]
  exact each.map (assemble? backend)

end RowFilter
