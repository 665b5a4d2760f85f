import RowFilter.Text.Case
import RowFilter.Value

/-!
# Columns

A column has a type and, when it is an enumeration, a name for the enumeration
and its members.
-/

namespace RowFilter

/-- The types of columns. -/
inductive ColumnType where
  /-- Text. -/
  | text
  /-- A number. -/
  | number
  /-- A truth value. -/
  | boolean
  /-- A date. -/
  | date
  /-- A date-time. -/
  | timestamp
  /-- A time of day. -/
  | time
  /-- One of a list of members. -/
  | enumeration
  /-- Anything else. -/
  | other
deriving DecidableEq, Repr, Inhabited

namespace ColumnType

/-- All column types. -/
def all : List ColumnType :=
  [.text, .number, .boolean, .date, .timestamp, .time, .enumeration, .other]

/-- The name of a column type. -/
def name : ColumnType → String
  | text => "TEXT"
  | number => "NUMBER"
  | boolean => "BOOLEAN"
  | date => "DATE"
  | timestamp => "TIMESTAMP"
  | time => "TIME"
  | enumeration => "ENUM"
  | other => "OTHER"

/-- The column type of the given name. -/
def ofName? (name : String) : Option ColumnType :=
  all.find? fun type => type.name == name

end ColumnType

/-- What is known of a column. -/
structure ColumnSpec where
  /-- The type of the column. -/
  type : ColumnType
  /-- The name of the enumeration. -/
  enumName : Option String := none
  /-- The members of the enumeration, in order. -/
  members : List String := []
deriving DecidableEq, Repr, Inhabited

/-- A column that is an enumeration. -/
def ColumnSpec.isEnumeration (spec : ColumnSpec) : Bool :=
  spec.type == .enumeration

/-- Columns by name, in order. -/
abbrev Columns := List (String × ColumnSpec)

namespace Columns

/-- The columns after an assignment: an old name keeps its place and takes the new column. -/
def insert (name : String) (spec : ColumnSpec) : Columns → Columns
  | [] => [(name, spec)]
  | (present, old) :: columns =>
      if present = name then (present, spec) :: columns
      else (present, old) :: insert name spec columns

/-- The columns that hold the given entries, assigned one after the other. -/
def ofList (entries : List (String × ColumnSpec)) : Columns :=
  entries.foldl (fun columns entry => insert entry.1 entry.2 columns) []

/--
The columns under their names in upper case, where a later column displaces an
earlier one of the same name.
-/
def upperNames (columns : Columns) : Columns :=
  ofList (columns.map fun entry => (Text.upper entry.1, entry.2))

/-- The column of the given name. -/
def find? (columns : Columns) (name : String) : Option ColumnSpec :=
  columns.lookup name

end Columns

/--
A value as a column of the given type takes it: a date becomes its midnight on
a timestamp column, and a date-time becomes its date on a date column.
-/
def align (type : ColumnType) (value : Value) : Value :=
  match type, value with
  | .timestamp, .date day => .dateTime (.midnight day)
  | .date, .dateTime moment => .date moment.date
  | _, value => value

end RowFilter
