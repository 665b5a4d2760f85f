import RowFilter.Filter.Operand

/-!
# The reference of the filter language

A Markdown page: the form of a filter, its operations and types, what it
cannot express, and worked examples.  The examples are written by
`encodeOperand`, so each of them is a filter of this language.
-/

namespace RowFilter
namespace Reference

/-- A worked example: what it says, and the parts of its filter. -/
structure Example where
  /-- What the filter says. -/
  description : String
  /-- The field. -/
  field : String
  /-- The name of the operation. -/
  operation : String
  /-- The value. -/
  operand : Operand
  /-- The name of the type, if it is given. -/
  kind : Option String

/-- A text between backquotes. -/
def code (text : String) : String :=
  "`" ++ text ++ "`"

/-- What an operation means. -/
def operationHelp : Operation → String
  | .test (.compare .eq) =>
      "equal to; on enumerated fields the value matches a member name case-insensitively"
  | .test (.compare .gt) => "greater than"
  | .test (.compare .ge) => "greater than or equal to"
  | .test (.compare .lt) => "less than"
  | .test (.compare .le) => "less than or equal to"
  | .test .contains => "contains the value, case-insensitive (STRING only)"
  | .among => "one of several values separated by `~`"
  | .test .search =>
      "free-text search, case-insensitive contains (STRING only); all SEARCH filters are ORed"

/-- How the values of a kind are written. -/
def kindHelp : Kind → String
  | .text => "text, taken verbatim (default)"
  | .bool => "`true` or `false`, case-insensitive"
  | .date => "calendar date `YYYY-MM-DD`"
  | .dateTime => "local date-time `YYYY-MM-DDThh:mm:ss`"
  | .int => "64-bit signed integer"
  | .decimal => "decimal number (exact, not binary floating point)"

/-- A text as an operand. -/
def textOperand (content : String) : Operand :=
  .item (.text content)

/-- The examples of the page when no others are given. -/
def defaultExamples : List Example :=
  [⟨"Age over 30", "age", "GT", textOperand "30", some "INT"⟩,
    ⟨"Name contains john", "name", "LK", textOperand "john", none⟩,
    ⟨"Status is active", "status", "EQ", textOperand "ACTIVE", none⟩,
    ⟨"Born before 2022", "birthday", "LT", textOperand "2022-01-01", some "DATE"⟩,
    ⟨"Country is one of", "country", "IN",
      .list [textOperand "NL", textOperand "BE", textOperand "DE"], none⟩,
    ⟨"Free-text search on name", "name", "SEARCH", textOperand "john", none⟩]

/-- A row of a table. -/
def tableRow (cells : List String) : String :=
  "| " ++ String.intercalate " | " cells ++ " |"

/-- The lines of a table: its heading, a rule, and a line for each row. -/
def table (heading : List String) (rows : List (List String)) : List String :=
  [tableRow heading, "|" ++ String.intercalate "|" (heading.map fun _ => "---") ++ "|"] ++
    rows.map tableRow

/-- The rows of the worked examples, or the error of the first that is no filter. -/
def exampleRows : List Example → Except EntryError (List (List String))
  | [] => .ok []
  | shown :: others =>
      match encodeOperand shown.field shown.operation shown.operand shown.kind with
      | .error error => .error error
      | .ok filter =>
          match exampleRows others with
          | .error error => .error error
          | .ok rows => .ok ([shown.description, code filter] :: rows)

/-- The lines of the page up to the examples. -/
def introduction : List String :=
  ["# Filter syntax", "", "Each filter is one string: `field;operation;value[;type]`.",
    "Operation and type names are case-insensitive. The type defaults to `STRING`.", "",
    "All filters are combined with AND, except `SEARCH` filters, which are combined with OR " ++
      "into a single group that joins the AND.",
    "", "## Operations", ""] ++
  table ["Operation", "Meaning"]
    (Operation.all.map fun operation => [code operation.name, operationHelp operation]) ++
  ["", "## Types", ""] ++
  table ["Type", "Value format"] (Kind.all.map fun kind => [code kind.name, kindHelp kind]) ++
  ["", "## Limitations", "", "- `;` cannot appear inside any segment.",
    "- `~` separates `IN` values and cannot appear inside a `STRING` element of an `IN` filter.",
    "", "## Examples", ""]

/-- The page, with the given examples, or the default ones where there are none. -/
def page (examples : List Example) : Except EntryError String :=
  match exampleRows (if examples.isEmpty then defaultExamples else examples) with
  | .error error => .error error
  | .ok rows =>
      .ok (String.intercalate "\n" (introduction ++ table ["Example", "Filter"] rows ++ [""]))

end Reference
end RowFilter
