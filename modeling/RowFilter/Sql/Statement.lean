import RowFilter.Query.Compile
import RowFilter.Sql.Predicate

/-!
# Statements

Fields are resolved against columns without regard to case: both names are
compared in upper case, and the column is named in upper case in the statement.

`whereClause` compiles filters into a condition with its parameters, and
`select` puts the condition into a statement over a view.
-/

namespace RowFilter
namespace Sql

/-! ## The SQL backend -/

/-- A column as it stands in a statement. -/
structure ColumnExpr where
  /-- The name of the column. -/
  name : String
  /-- What is known of the column. -/
  spec : ColumnSpec
  /-- Quotes are asked for. -/
  quote : Bool
deriving DecidableEq

/-- The identifier of a column. -/
def ColumnExpr.identifier (column : ColumnExpr) : Identifier :=
  .ofName column.quote column.name

/-- The backend whose predicates are SQL conditions. -/
def backend : Backend ColumnExpr Predicate where
  column column := column.spec
  compare column comparison value := .atom (.compare column.identifier comparison value)
  among column values := .atom (.ofValues column.identifier values)
  like column pattern := .atom (.like column.identifier (.text pattern))
  both := .join .and
  either := .join .or

/-- The column of a field, under its name in upper case. -/
def resolver (columns : Columns) (quote : Bool) : Resolver ColumnExpr := fun field =>
  let name := Text.upper field
  match columns.upperNames.find? name with
  | some spec => .ok { name, spec, quote }
  | none => .error (.unknownField field)

/-! ## Statements -/

/-- Why there is no statement. -/
inductive StatementError where
  /-- A filter does not compile. -/
  | filter (error : FilterError)
  /-- There is no such style of placeholders. -/
  | unknownStyle
  /-- The view has no name. -/
  | viewRequired
deriving DecidableEq

/-- The message of an error. -/
def StatementError.message : StatementError → String
  | filter error => error.message
  | unknownStyle => "paramstyle must be 'qmark' or 'pyformat'"
  | viewRequired => "view is required"

/-- The empty sink of the style with the given name. -/
def openSink (style stem : String) (start : Int) : Except StatementError Sink :=
  match ParamStyle.ofName? style with
  | some style => .ok { style, stem, next := start }
  | none => .error .unknownStyle

/-- How a condition is written. -/
structure ClauseOptions where
  /-- The name of the style of placeholders. -/
  style : String := "qmark"
  /-- The condition that stands where there is nothing to filter. -/
  whenEmpty : String := "1=1"
  /-- The condition is introduced by its keyword. -/
  keyword : Bool := true
  /-- What the names of parameters start with. -/
  stem : String := "p"
  /-- The number of the first name. -/
  start : Int := 1

/-- A text with the parameters of its placeholders. -/
structure Clause where
  /-- The text. -/
  sql : String
  /-- The parameters. -/
  params : Params
deriving DecidableEq

/-- A condition that is not empty, introduced by its keyword where it is wanted. -/
def introduced (keyword : Bool) (body : String) : String :=
  if body = "" then "" else if keyword then "WHERE " ++ body else body

/-- The condition of filters with its parameters, and the warnings given on the way. -/
def whereClause (options : ClauseOptions) (resolve : Resolver ColumnExpr) (filters : List Filter) :
    Except StatementError (Clause × List Warning) :=
  match openSink options.style options.stem options.start with
  | .error error => .error error
  | .ok sink =>
      let compiled := compile backend resolve filters
      match compiled.outcome with
      | .error error => .error (.filter error)
      | .ok predicate? =>
          let (body, final) :=
            match predicate? with
            | some predicate => predicate.render sink
            | none => ("", sink)
          let body := if body = "" then options.whenEmpty else body
          .ok ({ sql := introduced options.keyword body, params := final.params },
            compiled.warnings)

/-- How a statement is written. -/
structure SelectOptions where
  /-- The columns of the result; all of them when there are none. -/
  columns : List String := []
  /-- The name of the style of placeholders. -/
  style : String := "qmark"
  /-- Quotes are asked for. -/
  quote : Bool := false
  /-- Equal rows are given once. -/
  distinct : Bool := false
  /-- A statement that counts the rows is given too. -/
  count : Bool := false

/-- A statement, and the one that counts its rows. -/
structure Selection where
  /-- The statement with its parameters. -/
  statement : Clause
  /-- The statement that counts the rows, with its parameters. -/
  count : Option Clause
  /-- The filters of the statement. -/
  filters : List Filter
  /-- The warnings given on the way. -/
  warnings : List Warning

/-- A text with a condition after it, where there is one. -/
def restricted (head condition : String) : String :=
  if condition = "" then head else head ++ " " ++ condition

/-- The statement over a view whose rows meet all filters. -/
def select (view : String) (options : SelectOptions) (resolve : Resolver ColumnExpr)
    (filters : List Filter) : Except StatementError Selection :=
  if view = "" then .error .viewRequired
  else
    let source := dottedText options.quote view
    let clauseOptions : ClauseOptions := { style := options.style, whenEmpty := "" }
    match whereClause clauseOptions resolve filters with
    | .error error => .error error
    | .ok (clause, warnings) =>
        let head := "SELECT " ++ (if options.distinct then "DISTINCT " else "") ++
          selectList options.quote options.columns ++ " FROM " ++ source
        let statement : Clause :=
          { sql := restricted head clause.sql, params := clause.params }
        if options.count then
          match whereClause clauseOptions resolve filters with
          | .error error => .error error
          | .ok (countClause, countWarnings) =>
              let count : Clause :=
                { sql := restricted ("SELECT COUNT(*) FROM " ++ source) countClause.sql
                  params := countClause.params }
              .ok { statement, count := some count, filters, warnings := warnings ++ countWarnings }
        else .ok { statement, count := none, filters, warnings }

end Sql
end RowFilter
