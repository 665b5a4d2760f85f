import RowFilter.Filter.Operand
import RowFilter.Proofs.Filter.Encoding

/-!
# Filters and their operands

Every filter is built from its own parts, under any name, and the text that is
written from its parts without building it is its own text.
-/

namespace RowFilter

/-- A value by itself is of a kind exactly when it is of that kind. -/
theorem Operand.ofKind?_item {kind : Kind} {value : Value} (kind_eq : value.kind = some kind) :
    (Operand.item value).ofKind? kind = some value :=
  if_pos kind_eq

theorem Operand.valuesOfKind_items
    {kind : Kind} {values : List Value} (kinds : ∀ value ∈ values, value.kind = some kind) :
    Operand.valuesOfKind kind (values.map .item) = .ok values := by
  induction values with
  | nil => rfl
  | cons value values inductionHypothesis =>
      rw [List.forall_mem_cons] at kinds
      rw [List.map_cons, valuesOfKind, ofKind?_item kinds.1, inductionHypothesis kinds.2]

/-- A value of the kind is written as its canonical text. -/
theorem Operand.segment_item {kind : Kind} {value : Value} (kind_eq : value.kind = some kind) :
    (Operand.item value).segment kind = .ok value.canonical := by
  cases value <;> cases kind_eq <;> rfl

theorem Operand.segmentAll_items
    {kind : Kind} {values : List Value} (kinds : ∀ value ∈ values, value.kind = some kind) :
    Operand.segmentAll kind (values.map .item) = .ok (values.map Value.canonical) := by
  induction values with
  | nil => rfl
  | cons value values inductionHypothesis =>
      rw [List.forall_mem_cons] at kinds
      rw [List.map_cons, segmentAll, segment_item kinds.1, inductionHypothesis kinds.2,
        List.map_cons]

namespace Filter

/-- The values of a filter as an operand: many for a membership, else a single one. -/
def operand (filter : Filter) : Operand :=
  match filter.condition with
  | .test _ item => .single (.item item)
  | .among items => .many (items.map .item)

variable (filter : Filter)

theorem kind_of_condition {condition : Condition} (condition_eq : filter.condition = condition) :
    ∀ item ∈ condition.items, item.kind = some filter.kind :=
  condition_eq ▸ filter.kind_of_mem

/-- Tokens for the operation and the kind of a filter build it from its operand, under any name. -/
theorem ofOperand_of_tokens
    {name : String} (nonempty : name ≠ "") {token kindDatum : Datum}
    (operationRead : readOperation token.operationToken = .ok filter.operation)
    (kindRead : readKind kindDatum.kindToken = .ok filter.kind) :
    ofOperand (.text name) token filter.operand kindDatum = .ok (filter.rename name nonempty) := by
  have truthy : (Datum.text name).isTruthy = true := by simpa [Datum.isTruthy] using nonempty
  cases condition : filter.condition with
  | test asked item =>
      have kinds := filter.kind_of_condition condition
      have found := Operand.ofKind?_item (kinds item List.mem_cons_self)
      rw [operation, condition, Condition.operation] at operationRead
      simp only [ofOperand, operand, condition, operationRead, kindRead, truthy]
      rw [if_neg (by decide)]
      split
      · next absent => cases found.symm.trans absent
      · next other present =>
          obtain rfl : item = other := Option.some.inj (found.symm.trans present)
          rw [dif_neg nonempty, rename]
          simp only [condition]
  | among items =>
      have kinds : ∀ item ∈ items, item.kind = some filter.kind :=
        filter.kind_of_condition condition
      have found := Operand.valuesOfKind_items kinds
      rw [operation, condition, Condition.operation] at operationRead
      simp only [ofOperand, operand, condition, operationRead, kindRead, truthy]
      rw [if_neg (by decide)]
      split
      · next failed => cases found.symm.trans failed
      · next others present =>
          obtain rfl : items = others := Except.ok.inj (found.symm.trans present)
          rw [dif_neg nonempty, rename]
          simp only [condition]

/-- The parts of a filter build it again, under any name. -/
theorem ofOperand_operand {name : String} (nonempty : name ≠ "") :
    ofOperand (.text name) (.text filter.operation.name) filter.operand (.text filter.kind.name) =
      .ok (filter.rename name nonempty) :=
  filter.ofOperand_of_tokens nonempty (readOperation_name _) (readKind_name _)

/-- What is written from the parts of a filter is its text. -/
theorem encodeOperand_operand :
    encodeOperand filter.field filter.operation.name filter.operand (some filter.kind.name) =
      .ok filter.encode := by
  have operationRead := readOperation_name filter.operation
  have kindRead := readKind_name filter.kind
  cases condition : filter.condition with
  | test asked item =>
      have kinds := filter.kind_of_condition condition
      have operation_eq : filter.operation = .test asked := congrArg Condition.operation condition
      rw [encodeOperand, operand, condition, operationRead, kindRead, operation_eq]
      simp only [Operand.segment_item (kinds item List.mem_cons_self)]
      rw [encode, valueText, items, operation_eq, condition, Condition.items, List.map_singleton,
        Text.join_singleton]
  | among items =>
      have kinds : ∀ item ∈ items, item.kind = some filter.kind :=
        filter.kind_of_condition condition
      have operation_eq : filter.operation = .among := congrArg Condition.operation condition
      rw [encodeOperand, operand, condition, operationRead, kindRead, operation_eq]
      simp only [Operand.segmentAll_items kinds]
      rw [encode, valueText, Filter.items, operation_eq, condition, Condition.items]

end Filter
end RowFilter
