import RowFilter.Query.Compile

/-!
# The free backend

Predicates as trees that record how they were built.  Its resolver knows every
field; one that is not declared is of no particular type.
-/

namespace RowFilter

/-- A predicate as it was built. -/
inductive Tree where
  /-- An order relation between a field and a value. -/
  | compare (field : String) (comparison : Comparison) (value : Value)
  /-- A field equals one of several values. -/
  | among (field : String) (values : List Value)
  /-- A field in upper case matches a pattern. -/
  | like (field pattern : String)
  /-- Both predicates hold. -/
  | both (left right : Tree)
  /-- One of two predicates holds. -/
  | either (left right : Tree)
deriving DecidableEq

namespace Tree

/-- A field with what is known of its column. -/
structure Field where
  /-- The name of the field. -/
  name : String
  /-- What is known of its column. -/
  spec : ColumnSpec

/-- The backend whose predicates are trees. -/
def backend : Backend Field Tree where
  column field := field.spec
  compare field comparison value := .compare field.name comparison value
  among field values := .among field.name values
  like field pattern := .like field.name pattern
  both := .both
  either := .either

/-- The field of the given name, with its column where it is declared. -/
def resolver (columns : Columns) : Resolver Field := fun name =>
  .ok { name, spec := (columns.find? name).getD { type := .other } }

end Tree
end RowFilter
