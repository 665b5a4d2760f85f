import RowFilter.Query.Compile

/-!
# The rules of compilation

`CompilesTo` says which predicate a filter becomes, without its warnings.  The
rules of `ConditionCompiles` give that predicate by the condition of the filter and the
column of its field, one rule for each way in which a condition compiles.
-/

namespace RowFilter

variable {Expression Predicate : Type}
variable {backend : Backend Expression Predicate} {resolve : Resolver Expression}

/-- A filter compiles to a predicate, whatever warning it gives. -/
def CompilesTo (backend : Backend Expression Predicate) (resolve : Resolver Expression)
    (filter : Filter) (predicate : Predicate) : Prop :=
  ∃ warning, compileFilter backend resolve filter = .ok { predicate, warning }

/-- The predicates of conditions on an expression. -/
inductive ConditionCompiles (backend : Backend Expression Predicate) (expression : Expression) :
    Condition → Predicate → Prop where
  /-- Equality on an enumeration is equality with the first member of the same upper-case form. -/
  | equalsMember {item : Value} {member : String}
      (enumeration : (backend.column expression).isEnumeration = true)
      (found : matchingMember? (backend.column expression).members item = some member) :
      ConditionCompiles backend expression (.test (.compare .eq) item)
        (backend.compare expression .eq (.text member))
  /-- Any other comparison is one with the aligned value. -/
  | compares {comparison : Comparison} {item : Value}
      (plain : comparison = .eq → (backend.column expression).isEnumeration = false) :
      ConditionCompiles backend expression (.test (.compare comparison) item)
        (backend.compare expression comparison (align (backend.column expression).type item))
  /-- Containing a text is matching its pattern, for a search too. -/
  | containsText {asked : Test} {content : String}
      (asksText : asked = .contains ∨ asked = .search) :
      ConditionCompiles backend expression (.test asked (.text content))
        (backend.like expression (containsPattern content))
  /-- Membership on an enumeration is membership among the named members. -/
  | amongMembers {items : List Value}
      (enumeration : (backend.column expression).isEnumeration = true) :
      ConditionCompiles backend expression (.among items)
        (backend.among expression
          ((namedMembers (backend.column expression).members items).map .text))
  /-- Any other membership is one among the aligned values. -/
  | amongValues {items : List Value}
      (plain : (backend.column expression).isEnumeration = false) :
      ConditionCompiles backend expression (.among items)
        (backend.among expression (items.map (align (backend.column expression).type)))

/-- A test compiles by the rules of its condition. -/
theorem compileTest_eq_ok_iff
    (field : String) (kind : Kind)
    {asked : Test} {item : Value} {expression : Expression} {predicate : Predicate} :
    compileTest backend field kind asked item expression = .ok predicate ↔
      ConditionCompiles backend expression (.test asked item) predicate := by
  constructor
  · intro compiled
    cases asked with
    | compare comparison =>
        cases comparison with
        | eq =>
            simp only [compileTest] at compiled
            split at compiled
            · next enumeration =>
                split at compiled
                · next member found =>
                    cases compiled
                    exact .equalsMember enumeration found
                · cases compiled
            · next plain =>
                cases compiled
                exact .compares fun _ => by simpa using plain
        | _ =>
            cases compiled
            exact .compares (by intro equal; cases equal)
    | contains =>
        cases item with
        | text content =>
            cases compiled
            exact .containsText (.inl rfl)
        | _ => cases compiled
    | search =>
        cases item with
        | text content =>
            cases compiled
            exact .containsText (.inr rfl)
        | _ => cases compiled
  · intro rule
    cases rule with
    | equalsMember enumeration found => simp [compileTest, enumeration, found]
    | @compares comparison _ plain =>
        cases comparison with
        | eq => simp [compileTest, plain rfl]
        | _ => rfl
    | containsText asksText =>
        rcases asksText with rfl | rfl <;> rfl

/-- A membership compiles by the rules of its condition. -/
theorem compileAmong_predicate_iff
    (field : String)
    {items : List Value} {expression : Expression} {predicate : Predicate} :
    (compileAmong backend field items expression).predicate = predicate ↔
      ConditionCompiles backend expression (.among items) predicate := by
  cases enumeration : (backend.column expression).isEnumeration with
  | false =>
      simp only [compileAmong, enumeration]
      constructor
      · rintro rfl
        exact .amongValues enumeration
      · intro rule
        cases rule with
        | amongMembers isEnumeration => simp [enumeration] at isEnumeration
        | amongValues => rfl
  | true =>
      simp only [compileAmong, enumeration]
      constructor
      · rintro rfl
        exact .amongMembers enumeration
      · intro rule
        cases rule with
        | amongMembers => rfl
        | amongValues plain => simp [enumeration] at plain

/-- The rules give exactly the predicates of filters. -/
theorem compilesTo_iff {filter : Filter} {predicate : Predicate} :
    CompilesTo backend resolve filter predicate ↔
      ∃ expression, resolve filter.field = .ok expression ∧
        ConditionCompiles backend expression filter.condition predicate := by
  unfold CompilesTo compileFilter
  cases resolved : resolve filter.field with
  | error error => simp
  | ok expression =>
      simp only [Except.ok.injEq, exists_eq_left']
      cases filter.condition with
      | test asked item =>
          simp only [← compileTest_eq_ok_iff filter.field filter.kind]
          cases compileTest backend filter.field filter.kind asked item expression <;> simp
      | among items =>
          rw [← compileAmong_predicate_iff filter.field]
          constructor
          · rintro ⟨warning, compiled⟩
            rw [Except.ok.inj compiled]
          · rintro rfl
            exact ⟨_, rfl⟩

/-- A filter compiles to one predicate at most. -/
theorem CompilesTo.unique
    {filter : Filter} {left right : Predicate}
    (compilesLeft : CompilesTo backend resolve filter left)
    (compilesRight : CompilesTo backend resolve filter right) :
    left = right := by
  obtain ⟨leftWarning, leftOutcome⟩ := compilesLeft
  obtain ⟨rightWarning, rightOutcome⟩ := compilesRight
  rw [leftOutcome] at rightOutcome
  injection rightOutcome with compiled
  exact congrArg Compiled.predicate compiled

end RowFilter
