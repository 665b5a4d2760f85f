import RowFilter.Proofs.Query.Refusal

/-!
# The course of a compilation

Filters are compiled one after the other.  As long as they compile, each has
its field resolved once and leaves its warning behind.  The first that does not
compile ends the run with its own error, and nothing after it is looked at.
-/

namespace RowFilter

variable {Expression Predicate : Type}

namespace Filter

/-- The filter does not compile. -/
def Fails (backend : Backend Expression Predicate) (resolve : Resolver Expression)
    (filter : Filter) : Prop :=
  ∃ error, compileFilter backend resolve filter = .error error

/-- The warnings of a filter by itself; one that does not compile gives none. -/
def warnings (backend : Backend Expression Predicate) (resolve : Resolver Expression)
    (filter : Filter) : List Warning :=
  match compileFilter backend resolve filter with
  | .ok compiled => compiled.warning.toList
  | .error _ => []

/-- The three kinds of filters that no predicate stands for. -/
inductive Unfit (backend : Backend Expression Predicate) (resolve : Resolver Expression)
    (filter : Filter) : Prop
  /-- The field is refused. -/
  | unresolved {error : FilterError} (refused : resolve filter.field = .error error) :
      Unfit backend resolve filter
  /-- A text is looked for, but the values are of another kind. -/
  | notText
      (asksText : filter.operation = .test .contains ∨ filter.operation = .test .search)
      (otherKind : filter.kind ≠ .text) :
      Unfit backend resolve filter
  /-- An enumeration is compared with a value whose upper-case form no member has. -/
  | notMember {expression : Expression} (resolved : resolve filter.field = .ok expression)
      (enumeration : (backend.column expression).isEnumeration = true)
      {item : Value} (equates : filter.condition = .test (.compare .eq) item)
      (stranger : ∀ member ∈ (backend.column expression).members,
        Text.upper member ≠ Text.upper item.plain) :
      Unfit backend resolve filter

end Filter

variable {backend : Backend Expression Predicate} {resolve : Resolver Expression}

/-! ## One filter -/

/-- A filter that does not fail compiles. -/
theorem Filter.not_fails_iff {filter : Filter} :
    ¬filter.Fails backend resolve ↔
      ∃ compiled, compileFilter backend resolve filter = .ok compiled := by
  rw [Fails]
  cases compileFilter backend resolve filter <;> simp

theorem Filter.warnings_eq {filter : Filter} {compiled : Compiled Predicate}
    (compiles : compileFilter backend resolve filter = .ok compiled) :
    filter.warnings backend resolve = compiled.warning.toList := by
  rw [warnings, compiles]

/-- The single value of a filter is of the declared kind. -/
theorem Filter.kind_of_test {filter : Filter} {asked : Test} {item : Value}
    (condition : filter.condition = .test asked item) :
    item.kind = some filter.kind := by
  apply filter.kind_of_mem
  rw [condition]
  exact List.mem_singleton_self item

/-- No filters fail but the unfit ones. -/
theorem Filter.fails_iff_unfit {filter : Filter} :
    filter.Fails backend resolve ↔ filter.Unfit backend resolve := by
  simp only [Fails, compileFilter_eq_error_iff]
  constructor
  · rintro ⟨error, fault⟩
    cases fault with
    | unresolved failed => exact .unresolved failed
    | test resolved condition fault =>
        cases fault with
        | notMember enumeration stranger =>
            exact .notMember resolved enumeration condition stranger
        | unsupported asksText otherKind =>
            refine .notText ?_ fun textKind => otherKind ?_
            · rw [operation, condition]
              exact asksText.imp (congrArg Operation.test) (congrArg Operation.test)
            · rw [kind_of_test condition, textKind]
  · intro unfit
    cases unfit with
    | unresolved refused => exact ⟨_, .unresolved refused⟩
    | notMember resolved enumeration equates stranger =>
        exact ⟨_, .test resolved equates (.notMember enumeration stranger)⟩
    | notText asksText otherKind =>
        cases resolved : resolve filter.field with
        | error error => exact ⟨error, .unresolved resolved⟩
        | ok expression =>
            rw [operation] at asksText
            cases condition : filter.condition with
            | among items => simp [condition, Condition.operation] at asksText
            | test asked item =>
                simp only [condition, Condition.operation, Operation.test.injEq] at asksText
                refine ⟨_, .test resolved condition (.unsupported asksText fun textKind => ?_)⟩
                rw [kind_of_test condition] at textKind
                exact otherKind (Option.some.inj textKind)

/-! ## One filter after the other -/

theorem compileEach_cons_of_error {filter : Filter} {error : FilterError}
    (failed : compileFilter backend resolve filter = .error error) (filters : List Filter) :
    compileEach backend resolve (filter :: filters) =
      { calls := [filter.field], warnings := [], outcome := .error error } := by
  rw [compileEach, failed]

/-- Filters that compile go before what comes of the filters after them. -/
theorem compileEach_append_of_sound {before : List Filter}
    (sound : ∀ filter ∈ before, ¬filter.Fails backend resolve) (after : List Filter) :
    ∃ conjuncts, compileEach backend resolve (before ++ after) =
      { calls := before.map Filter.field ++ (compileEach backend resolve after).calls
        warnings := before.flatMap (Filter.warnings backend resolve) ++
          (compileEach backend resolve after).warnings
        outcome := (compileEach backend resolve after).outcome.map (conjuncts ++ ·) } := by
  induction before with
  | nil =>
      refine ⟨[], ?_⟩
      rw [List.nil_append]
      obtain ⟨calls, warnings, outcome⟩ := compileEach backend resolve after
      cases outcome <;> rfl
  | cons filter before inductionHypothesis =>
      rw [List.forall_mem_cons, Filter.not_fails_iff] at sound
      obtain ⟨⟨compiled, compiles⟩, rest⟩ := sound
      obtain ⟨conjuncts, course⟩ := inductionHypothesis rest
      refine ⟨⟨filter.isSearch, compiled.predicate⟩ :: conjuncts, ?_⟩
      rw [List.cons_append, compileEach, compiles]
      simp only [course, List.map_cons, List.cons_append, List.flatMap_cons,
        Filter.warnings_eq compiles, List.append_assoc]
      cases (compileEach backend resolve after).outcome <;> rfl

/-! ## Lists of filters -/

variable {filters : List Filter}

/-- Filters that all compile are resolved once each, and all their warnings are given. -/
theorem compile_of_sound
    (sound : ∀ filter ∈ filters, ¬filter.Fails backend resolve) :
    (∃ predicate?, (compile backend resolve filters).outcome = .ok predicate?) ∧
      (compile backend resolve filters).calls = filters.map Filter.field ∧
      (compile backend resolve filters).warnings =
        filters.flatMap (Filter.warnings backend resolve) := by
  obtain ⟨conjuncts, course⟩ := compileEach_append_of_sound sound []
  rw [List.append_nil] at course
  rw [compile, course]
  exact ⟨⟨_, rfl⟩, List.append_nil _, List.append_nil _⟩

/-- After filters that compile, one that does not ends the run. -/
theorem compile_of_failing
    {before after : List Filter} {failing : Filter} {error : FilterError}
    (sound : ∀ filter ∈ before, ¬filter.Fails backend resolve)
    (failed : compileFilter backend resolve failing = .error error) :
    compile backend resolve (before ++ failing :: after) =
      { calls := (before ++ [failing]).map Filter.field
        warnings := before.flatMap (Filter.warnings backend resolve)
        outcome := .error error } := by
  obtain ⟨conjuncts, course⟩ := compileEach_append_of_sound sound (failing :: after)
  rw [compile, course, compileEach_cons_of_error failed, List.map_append, List.append_nil]
  rfl

/-- Where some filter fails, there is one before which all filters compile. -/
theorem exists_first_failing
    (failing : ∃ filter ∈ filters, filter.Fails backend resolve) :
    ∃ before first after, filters = before ++ first :: after ∧
      (∀ filter ∈ before, ¬filter.Fails backend resolve) ∧ first.Fails backend resolve := by
  induction filters with
  | nil => simp at failing
  | cons filter filters inductionHypothesis =>
      by_cases fails : filter.Fails backend resolve
      · exact ⟨[], filter, filters, rfl, by simp, fails⟩
      · rw [List.exists_mem_cons_iff] at failing
        obtain ⟨before, first, after, rfl, sound, firstFails⟩ :=
          inductionHypothesis (failing.resolve_left fails)
        exact ⟨filter :: before, first, after, rfl, List.forall_mem_cons.2 ⟨fails, sound⟩,
          firstFails⟩

/-- A list of filters fails when some filter does. -/
theorem compile_fails_iff :
    (∃ error, (compile backend resolve filters).outcome = .error error) ↔
      ∃ filter ∈ filters, filter.Fails backend resolve := by
  constructor
  · rintro ⟨error, failed⟩
    by_contra sound
    push Not at sound
    obtain ⟨⟨predicate?, compiled⟩, -⟩ := compile_of_sound sound
    rw [compiled] at failed
    cases failed
  · intro failing
    obtain ⟨before, first, after, rfl, sound, error, failed⟩ := exists_first_failing failing
    rw [compile_of_failing sound failed]
    exact ⟨error, rfl⟩

/-- Where compilation gives a result, no filter fails. -/
theorem sound_of_compiled
    {predicate? : Option Predicate}
    (compiled : (compile backend resolve filters).outcome = .ok predicate?) :
    ∀ filter ∈ filters, ¬filter.Fails backend resolve := by
  intro filter member fails
  obtain ⟨error, failed⟩ := compile_fails_iff.2 ⟨filter, member, fails⟩
  rw [compiled] at failed
  cases failed

/-! ## What is asked of the resolver -/

/-- A filter sees of the resolver only what it says about the field. -/
theorem compileFilter_congr {other : Resolver Expression} {filter : Filter}
    (agree : other filter.field = resolve filter.field) :
    compileFilter backend other filter = compileFilter backend resolve filter := by
  rw [compileFilter, compileFilter, agree]

/-- A resolver that answers the calls of a run in the same way has the same run. -/
theorem compileEach_congr {other : Resolver Expression}
    (agree : ∀ field ∈ (compileEach backend resolve filters).calls, other field = resolve field) :
    compileEach backend other filters = compileEach backend resolve filters := by
  induction filters with
  | nil => rfl
  | cons filter filters inductionHypothesis =>
      rw [compileEach] at agree
      cases outcome : compileFilter backend resolve filter with
      | error error =>
          simp only [outcome, List.mem_singleton, forall_eq] at agree
          have same : compileFilter backend other filter = compileFilter backend resolve filter :=
            compileFilter_congr agree
          rw [compileEach_cons_of_error outcome, compileEach_cons_of_error (same.trans outcome)]
      | ok compiled =>
          simp only [outcome, List.forall_mem_cons] at agree
          have same : compileFilter backend other filter = compileFilter backend resolve filter :=
            compileFilter_congr agree.1
          rw [compileEach, compileEach, same, inductionHypothesis agree.2]

/-! ## The whole course -/

/--
Filters that all compile are resolved once each, in order, and all their
warnings are given.  Otherwise the first filter that fails ends the run with
its own error, after its field has been resolved and with the warnings of the
filters before it.  Exactly the unfit filters fail, and the fields that were
resolved are all that the run knows of its resolver.
-/
theorem compile_stops_at_first_failure
    (backend : Backend Expression Predicate)
    (resolve : Resolver Expression)
    (filters : List Filter) :
    ((∀ filter ∈ filters, ¬filter.Fails backend resolve) →
      (∃ predicate?, (compile backend resolve filters).outcome = .ok predicate?) ∧
      (compile backend resolve filters).calls = filters.map Filter.field ∧
      (compile backend resolve filters).warnings =
        filters.flatMap (Filter.warnings backend resolve)) ∧
    ((∃ filter ∈ filters, filter.Fails backend resolve) →
      ∃ before failing after error,
        filters = before ++ failing :: after ∧
        (∀ filter ∈ before, ¬filter.Fails backend resolve) ∧
        compileFilter backend resolve failing = .error error ∧
        (compile backend resolve filters).outcome = .error error ∧
        (compile backend resolve filters).calls = (before ++ [failing]).map Filter.field ∧
        (compile backend resolve filters).warnings =
          before.flatMap (Filter.warnings backend resolve)) ∧
    (∀ filter : Filter, filter.Fails backend resolve ↔ filter.Unfit backend resolve) ∧
    ∀ other : Resolver Expression,
      (∀ field ∈ (compile backend resolve filters).calls, other field = resolve field) →
        compile backend other filters = compile backend resolve filters := by
  refine ⟨compile_of_sound, fun someFails => ?_, fun _ => Filter.fails_iff_unfit, ?_⟩
  · obtain ⟨before, failing, after, rfl, sound, error, failed⟩ := exists_first_failing someFails
    refine ⟨before, failing, after, error, rfl, sound, failed, ?_⟩
    rw [compile_of_failing sound failed]
    exact ⟨rfl, rfl, rfl⟩
  · intro other agree
    rw [compile, compile, compileEach_congr agree]

/-! ### A status that is no member -/

namespace Sample

/-- Tasks with a status. -/
def statuses : Columns :=
  [("status", { type := .enumeration, enumName := some "Status", members := ["Open", "Done"] })]

/-- A membership that names a status and a stranger. -/
def doneOrLost : Filter where
  field := "status"
  kind := .text
  condition := .among [.text "Done", .text "Lost"]
  field_ne_empty := by decide
  kind_of_mem := by simp [Condition.items, Value.kind]

/-- An equation with a status that does not exist. -/
def isLost : Filter where
  field := "status"
  kind := .text
  condition := .test (.compare .eq) (.text "lost")
  field_ne_empty := by decide
  kind_of_mem := by simp [Condition.items, Value.kind]

/-- The third filter does not compile, and the search after it is never resolved. -/
def interrupted : List Filter :=
  [doneOrLost, olderThan, isLost, searchName]

theorem mixed_sound :
    ∀ filter ∈ mixed, ¬filter.Fails Tree.backend (Tree.resolver statuses) := by
  intro filter member
  obtain ⟨tree, warning, compiles⟩ := mixed_compile statuses filter member
  exact Filter.not_fails_iff.2 ⟨_, compiles⟩

theorem isLost_fails : isLost.Fails Tree.backend (Tree.resolver statuses) :=
  ⟨.notMember "status" "Status" (.text "lost"), rfl⟩

end Sample

/-- The stranger is warned of before the run ends. -/
example :
    (compile Tree.backend (Tree.resolver Sample.statuses) Sample.interrupted).calls =
        ["status", "age", "status"] ∧
      (compile Tree.backend (Tree.resolver Sample.statuses) Sample.interrupted).warnings =
        [{ ignored := ["Lost"], field := "status", enumName := "Status" }] := by
  constructor <;> cbv

/--
Filters that all compile are all resolved; among others the run ends at the
equation with a stranger, after the warning of the membership before it.
-/
theorem compile_stops_at_first_failure_lost :
    (∀ filter ∈ Sample.mixed, ¬filter.Fails Tree.backend (Tree.resolver Sample.statuses)) ∧
    (compile Tree.backend (Tree.resolver Sample.statuses) Sample.mixed).calls =
      ["name", "age", "city"] ∧
    (∃ filter ∈ Sample.interrupted, filter.Fails Tree.backend (Tree.resolver Sample.statuses)) ∧
    ∃ before failing after error,
      Sample.interrupted = before ++ failing :: after ∧
      (∀ filter ∈ before, ¬filter.Fails Tree.backend (Tree.resolver Sample.statuses)) ∧
      compileFilter Tree.backend (Tree.resolver Sample.statuses) failing = .error error ∧
      (compile Tree.backend (Tree.resolver Sample.statuses) Sample.interrupted).outcome =
        .error error ∧
      (compile Tree.backend (Tree.resolver Sample.statuses) Sample.interrupted).calls =
        (before ++ [failing]).map Filter.field ∧
      (compile Tree.backend (Tree.resolver Sample.statuses) Sample.interrupted).warnings =
        before.flatMap (Filter.warnings Tree.backend (Tree.resolver Sample.statuses)) := by
  have someFails :
      ∃ filter ∈ Sample.interrupted, filter.Fails Tree.backend (Tree.resolver Sample.statuses) :=
    ⟨Sample.isLost, by simp [Sample.interrupted], Sample.isLost_fails⟩
  have sound :=
    compile_stops_at_first_failure Tree.backend (Tree.resolver Sample.statuses) Sample.mixed
  have failing :=
    compile_stops_at_first_failure Tree.backend (Tree.resolver Sample.statuses) Sample.interrupted
  exact ⟨Sample.mixed_sound, (sound.1 Sample.mixed_sound).2.1, someFails, failing.2.1 someFails⟩

end RowFilter
