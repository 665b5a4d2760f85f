import RowFilter.Text.Case
import RowFilter.Value

/-!
# Filters

An operation is a test against one value or the membership in several.  A
filter asks a condition of a field.  The condition fixes the shape of the
value: several values for membership, one for every other operation.  The
field is never empty and every value is of the kind that the filter declares.

`FilterError` has the causes for which a filter is refused, with a message for
each.
-/

namespace RowFilter

/-! ## Operations -/

/-- The five order relations. -/
inductive Comparison where
  /-- Equal to. -/
  | eq
  /-- Greater than. -/
  | gt
  /-- Greater than or equal to. -/
  | ge
  /-- Less than. -/
  | lt
  /-- Less than or equal to. -/
  | le
deriving DecidableEq, Repr, Inhabited

/-- The sign of a comparison. -/
def Comparison.sign : Comparison → String
  | .eq => "="
  | .gt => ">"
  | .ge => ">="
  | .lt => "<"
  | .le => "<="

/-- A test of a field against one value. -/
inductive Test where
  /-- An order relation holds between the field and the value. -/
  | compare (comparison : Comparison)
  /-- The field contains the value. -/
  | contains
  /-- The field contains the value; one such test among all of a list suffices. -/
  | search
deriving DecidableEq, Repr, Inhabited

/-- What a filter asks of its field. -/
inductive Operation where
  /-- A test against one value. -/
  | test (asked : Test)
  /-- Membership in several values. -/
  | among
deriving DecidableEq, Repr, Inhabited

namespace Operation

/-- All operations, in the order of the reference. -/
def all : List Operation :=
  [.test (.compare .eq), .test (.compare .gt), .test (.compare .ge), .test (.compare .lt),
    .test (.compare .le), .test .contains, .among, .test .search]

/-- The name of an operation in a filter. -/
def name : Operation → String
  | test (.compare .eq) => "EQ"
  | test (.compare .gt) => "GT"
  | test (.compare .ge) => "GE"
  | test (.compare .lt) => "LT"
  | test (.compare .le) => "LE"
  | test .contains => "LK"
  | test .search => "SEARCH"
  | among => "IN"

/-- The operation that a token names, in any case. -/
def ofToken? (token : String) : Option Operation :=
  all.find? fun operation => operation.name == Text.upper token

end Operation

/-! ## Errors -/

/-- Why a filter cannot be read or compiled. -/
inductive FilterError where
  /-- The text does not have the shape of a filter. -/
  | malformed (raw reason : String)
  /-- No operation has this name. -/
  | unknownOperation (token : String)
  /-- No kind has this name. -/
  | unknownKind (token : String)
  /-- The token is no value of the kind. -/
  | invalidValue (field : String) (kind : Kind) (token : String)
  /-- The operation does not apply to values of the kind. -/
  | unsupported (field : String) (operation : Operation) (kind : Kind)
  /-- The value names no member of the enumeration. -/
  | notMember (field enumName : String) (value : Value)
  /-- The field does not exist. -/
  | unknownField (field : String)
deriving DecidableEq

/-- The message of an error. -/
def FilterError.message : FilterError → String
  | malformed raw reason => "Malformed filter " ++ Text.quoted raw ++ ": " ++ reason
  | unknownOperation token => "Unknown filter operation: " ++ Text.quoted token
  | unknownKind token => "Unknown filter type: " ++ Text.quoted token
  | invalidValue field kind token =>
      "Invalid " ++ kind.name ++ " value for field " ++ Text.quoted field ++ ": " ++
        Text.quoted token
  | unsupported field operation kind =>
      "Operation " ++ operation.name ++ " is not supported for " ++ kind.name ++
        " values (field " ++ Text.quoted field ++ ")"
  | notMember field enumName value =>
      value.quoted ++ " is not a member of " ++ enumName ++ " (field " ++ Text.quoted field ++ ")"
  | unknownField field => "Unknown filter field: " ++ Text.quoted field

/-- The reason given for a text with fewer than three segments. -/
def expectedShape : String :=
  "expected field;operation;value[;type]"

/-! ## Filters -/

/-- What a filter asks, with the values that it compares to. -/
inductive Condition where
  /-- A test against one value. -/
  | test (asked : Test) (item : Value)
  /-- Membership in several values. -/
  | among (items : List Value)
deriving DecidableEq

namespace Condition

/-- The operation of a condition. -/
def operation : Condition → Operation
  | .test asked _ => .test asked
  | .among _ => .among

/-- The values of a condition, in order. -/
def items : Condition → List Value
  | .test _ item => [item]
  | .among items => items

end Condition

/-- One condition on one field. -/
structure Filter where
  /-- The name of the field. -/
  field : String
  /-- The kind of the values. -/
  kind : Kind
  /-- The condition. -/
  condition : Condition
  /-- The field has a name. -/
  field_ne_empty : field ≠ ""
  /-- Every value is of the declared kind. -/
  kind_of_mem : ∀ item ∈ condition.items, item.kind = some kind
deriving DecidableEq

namespace Filter

/-- The operation of a filter. -/
def operation (filter : Filter) : Operation :=
  filter.condition.operation

/-- The values of a filter, in order. -/
def items (filter : Filter) : List Value :=
  filter.condition.items

/-- A filter that joins the group of which one member suffices. -/
def isSearch (filter : Filter) : Bool :=
  filter.operation == .test .search

/-- The same condition on a field of another name. -/
def rename (filter : Filter) (name : String) (nonempty : name ≠ "") : Filter :=
  { filter with field := name, field_ne_empty := nonempty }

/-- Two filters that ask the same of the same field, where equal numbers are the same. -/
def same (left right : Filter) : Bool :=
  left.field == right.field && left.operation == right.operation && left.kind == right.kind &&
    sameValues left.items right.items

end Filter
end RowFilter
