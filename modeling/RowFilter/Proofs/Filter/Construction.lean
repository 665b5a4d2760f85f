import RowFilter.Proofs.Filter.Operand
import RowFilter.Proofs.Filter.Refusal

/-!
# Which parts build a filter

A filter is built from a field with a name, from the names of an operation and
of a kind, and from a value of the right shape whose items are all of the kind.
Integers are not held to the limits of filters when a filter is built, so what
is built is as specified exactly when they are within the limits.
-/

namespace RowFilter

/-- The values of a kind as it is specified, integers with 64 bits. -/
inductive Kind.Specifies : Kind → Value → Prop
  | text (content : String) : Specifies .text (.text content)
  | bool (truth : Bool) : Specifies .bool (.bool truth)
  | date (day : Date) : Specifies .date (.date day)
  | dateTime (moment : DateTime) : Specifies .dateTime (.dateTime moment)
  | int {number : Int} (least : leastInt ≤ number) (greatest : number ≤ greatestInt) :
      Specifies .int (.int number)
  | decimal (number : Decimal) : Specifies .decimal (.decimal number)

/-- A value is as specified when it is of the kind and within the limits if it is an integer. -/
theorem Kind.specifies_iff {kind : Kind} {value : Value} :
    kind.Specifies value ↔
      value.kind = some kind ∧
        ∀ number, value = .int number → leastInt ≤ number ∧ number ≤ greatestInt := by
  constructor
  · rintro (_ | _ | _ | _ | ⟨least, greatest⟩ | _)
    case int =>
      refine ⟨rfl, ?_⟩
      rintro _ ⟨⟩
      exact ⟨least, greatest⟩
    all_goals exact ⟨rfl, nofun⟩
  · rintro ⟨kind_eq, limits⟩
    cases value with
    | null => cases kind_eq
    | int number =>
        cases kind_eq
        exact .int (limits number rfl).1 (limits number rfl).2
    | _ =>
        cases kind_eq
        constructor

/-- An operand of the shape that an operation takes, with the items that it holds. -/
inductive Operand.Holds (admits : Value → Prop) : Operand → Operation → List Value → Prop
  /-- A test takes a single value. -/
  | single {asked : Test} {item : Value} (admitted : admits item) :
      Holds admits (.single (.item item)) (.test asked) [item]
  /-- A membership takes many. -/
  | many {items : List Value} (admitted : ∀ item ∈ items, admits item) :
      Holds admits (.many (items.map .item)) .among items

namespace Operand

variable {kind : Kind}

/-- What is of a kind is a value by itself. -/
theorem ofKind?_eq_some_iff {operand : Operand} {value : Value} :
    operand.ofKind? kind = some value ↔ operand = .item value ∧ value.kind = some kind := by
  constructor
  · intro found
    refine ⟨?_, kind_of_ofKind? found⟩
    cases operand <;> simp only [ofKind?, reduceCtorEq, Option.ite_none_right_eq_some] at found
    rw [Option.some.inj found.2]
  · rintro ⟨rfl, kind_eq⟩
    exact ofKind?_item kind_eq

/-- Several are of a kind when each is a value by itself, and of the kind. -/
theorem valuesOfKind_eq_ok_iff {operands : List Operand} {values : List Value} :
    valuesOfKind kind operands = .ok values ↔
      operands = values.map .item ∧ ∀ value ∈ values, value.kind = some kind := by
  constructor
  · intro found
    refine ⟨?_, kind_of_valuesOfKind found⟩
    induction operands generalizing values with
    | nil =>
        cases found
        rfl
    | cons operand operands inductionHypothesis =>
        unfold valuesOfKind at found
        split at found
        · cases found
        · next value first =>
            split at found
            · cases found
            · next values rest =>
                cases found
                rw [List.map_cons, (ofKind?_eq_some_iff.1 first).1, inductionHypothesis rest]
  · rintro ⟨rfl, kinds⟩
    exact valuesOfKind_items kinds

end Operand

namespace Filter

variable {filter : Filter}

/-- A filter holds the items of its own operand. -/
theorem holds_iff {admits : Value → Prop} {operand : Operand} :
    operand.Holds admits filter.operation filter.items ↔
      filter.operand = operand ∧ ∀ item ∈ filter.items, admits item := by
  rw [operation, items, Filter.operand]
  generalize filter.condition = condition
  constructor
  · intro holds
    cases condition with
    | test asked item =>
        cases holds with
        | single admitted => exact ⟨rfl, List.forall_mem_singleton.2 admitted⟩
    | among items =>
        cases holds with
        | many admitted => exact ⟨rfl, admitted⟩
  · rintro ⟨rfl, admitted⟩
    cases condition with
    | test asked item => exact .single (admitted item List.mem_cons_self)
    | among items => exact .many admitted

/-- A filter that has the given parts, each item of its kind. -/
structure IsBuiltFrom (field : String) (operation : Datum) (operand : Operand) (kind : Datum)
    (filter : Filter) : Prop where
  /-- The field has a name. -/
  named : field ≠ ""
  /-- The field is the given one. -/
  field_eq : filter.field = field
  /-- The operation is named in any case. -/
  operation : Text.upper operation.plain = filter.operation.name
  /-- The kind is named in any case, or not at all. -/
  kind : NamesKind kind.kindToken filter.kind
  /-- The value has the shape that the operation takes. -/
  value : operand.Holds (fun item => item.kind = some filter.kind) filter.operation filter.items

variable {field : String} {operation kind : Datum} {operand : Operand}

/-- Whatever is built has a name for its field, its operation and its kind. -/
theorem exists_names_of_ofOperand
    (built : ofOperand (.text field) operation operand kind = .ok filter) :
    field ≠ "" ∧ ∃ asked declared,
      readOperation operation.operationToken = .ok asked ∧
        readKind kind.kindToken = .ok declared := by
  unfold ofOperand at built
  split at built
  · cases built
  · next asked operationRead =>
      split at built
      · cases built
      · next declared kindRead =>
          refine ⟨?_, asked, declared, operationRead, kindRead⟩
          rintro rfl
          cases built

/-- What is built has the parts that it is built from. -/
theorem isBuiltFrom_of_ofOperand
    (built : ofOperand (.text field) operation operand kind = .ok filter) :
    IsBuiltFrom field operation operand kind filter := by
  obtain ⟨named, asked, declared, operationRead, kindRead⟩ := exists_names_of_ofOperand built
  have operationNamed := readOperation_eq_ok_iff.1 operationRead
  have kindNamed := readKind_eq_ok_iff.1 kindRead
  have truthy : (Datum.text field).isTruthy = true := by simpa [Datum.isTruthy] using named
  simp only [ofOperand, operationRead, kindRead, truthy, Bool.not_true, Bool.false_eq_true,
    if_false, dif_neg named] at built
  -- Of the shapes of an operand under an operation only two are taken.
  split at built
  · split at built
    · cases built
    · next found =>
        cases built
        obtain ⟨rfl, kind_eq⟩ := Operand.ofKind?_eq_some_iff.1 found
        exact ⟨named, rfl, operationNamed, kindNamed, .single kind_eq⟩
  · split at built
    · cases built
    · next found =>
        cases built
        obtain ⟨rfl, kinds⟩ := Operand.valuesOfKind_eq_ok_iff.1 found
        exact ⟨named, rfl, operationNamed, kindNamed, .many kinds⟩
  all_goals cases built

/-- Parts that name and hold what is asked for are built. -/
theorem ofOperand_of_isBuiltFrom (parts : IsBuiltFrom field operation operand kind filter) :
    ofOperand (.text field) operation operand kind = .ok filter := by
  obtain ⟨named, rfl, operationNamed, kindNamed, holds⟩ := parts
  obtain ⟨rfl, -⟩ := holds_iff.1 holds
  exact filter.ofOperand_of_tokens named
    (readOperation_eq_ok_iff.2 operationNamed)
    (readKind_eq_ok_iff.2 kindNamed)

/--
A filter is built exactly from parts that name its field, its operation and its
kind and whose value has the shape of the operation and items of the kind.  What
is built is as it is specified exactly when its integers are within the limits.
-/
theorem ofOperand_specified_iff
    (field : String) (operation : Datum) (operand : Operand) (kind : Datum) (filter : Filter) :
    (ofOperand (.text field) operation operand kind = .ok filter ↔
      IsBuiltFrom field operation operand kind filter) ∧
    (IsBuiltFrom field operation operand kind filter →
      (operand.Holds filter.kind.Specifies filter.operation filter.items ↔
        ∀ number, .int number ∈ filter.items → leastInt ≤ number ∧ number ≤ greatestInt)) := by
  refine ⟨⟨isBuiltFrom_of_ofOperand, ofOperand_of_isBuiltFrom⟩, fun parts => ?_⟩
  obtain ⟨operand_eq, -⟩ := holds_iff.1 parts.value
  rw [holds_iff, and_iff_right operand_eq]
  constructor
  · intro specified number member
    exact (Kind.specifies_iff.1 (specified _ member)).2 number rfl
  · intro limits item member
    refine Kind.specifies_iff.2 ⟨filter.kind_of_mem item member, ?_⟩
    rintro number rfl
    exact limits number member

/-- An integer beyond 64 bits is built into a filter although no such integer is specified. -/
theorem ofOperand_specified_not_large :
    ∃ filter,
      ofOperand (.text "age") (.text "EQ") (.single (.item (.int 9223372036854775808)))
        (.text "INT") = .ok filter ∧
      filter.items = [.int 9223372036854775808] ∧
      ¬∀ item ∈ filter.items, filter.kind.Specifies item := by
  refine ⟨⟨"age", .int, .test (.compare .eq) (.int 9223372036854775808), by decide, by decide⟩, rfl,
    rfl, fun specified => ?_⟩
  have limits := (Kind.specifies_iff.1 (specified _ List.mem_cons_self)).2 _ rfl
  exact absurd limits.2 (by decide)

end Filter
end RowFilter
