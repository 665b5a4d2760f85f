import RowFilter.Catalogue.Basic
import RowFilter.Filter.Text
import RowFilter.Sql.Statement
import RowFilter.Text.Snake

/-!
# Answering a query

A query names an entity, gives filters as texts and may choose columns.  Its
answer is a statement over the view of the entity.  A query that fails is
rejected with the status of its failure.
-/

namespace RowFilter
namespace Service

/-! ## Failures of a request -/

/-- Why a request is not answered. -/
inductive Failure where
  /-- The catalogue cannot be read. -/
  | load (error : LoadError)
  /-- No entity has this name. -/
  | unknownEntity (name : String)
  /-- The entity has no column of this name. -/
  | columnNotAllowed (entity column : String)
  /-- There is no statement. -/
  | statement (error : Sql.StatementError)

/-- The message of a failure, where it has one. -/
def Failure.message? : Failure → Option String
  | load error => error.message?
  | unknownEntity name => some (Text.quoted ("Unknown entity: " ++ name))
  | columnNotAllowed entity column => some ("Column not allowed for " ++ entity ++ ": " ++ column)
  | statement error => some error.message

/-- A failure of a filter. -/
def Failure.filter (error : FilterError) : Failure :=
  .statement (.filter error)

/-- The status of a failure: what is asked for is wrong, is not there, or cannot be served. -/
def Failure.status : Failure → Nat
  | load _ => 500
  | unknownEntity _ => 404
  | columnNotAllowed .. => 400
  | statement _ => 400

/-- The answer to a request that fails. -/
structure Rejection where
  /-- The status. -/
  status : Nat
  /-- The message, where there is one. -/
  message : Option String
deriving DecidableEq, Repr

/-- The rejection for a failure. -/
def Failure.rejection (failure : Failure) : Rejection :=
  { status := failure.status, message := failure.message? }

/-! ## Answers -/

/-- What a query asks for. -/
structure QueryRequest where
  /-- The name of the entity. -/
  entity : String
  /-- The filters, as texts. -/
  filters : List (Option String) := []
  /-- The columns of the result. -/
  columns : List String := []
  /-- The name of the style of placeholders. -/
  style : String := "pyformat"
  /-- Quotes are asked for. -/
  quote : Bool := false
  /-- Equal rows are given once. -/
  distinct : Bool := false
  /-- A statement that counts the rows is given too. -/
  count : Bool := false
  /-- Fields are named in camel case. -/
  camelCase : Bool := false

/-- The answer to a query. -/
structure QueryAnswer where
  /-- The statement. -/
  selection : Sql.Selection
  /-- The view of the entity. -/
  view : String

/-- A filter whose field is put in snake case. -/
def snakeField (filter : Filter) : Filter :=
  filter.rename (Text.snake filter.field) (Text.snake_ne_empty filter.field_ne_empty)

/-- The first column that the entity does not have. -/
def disallowedColumn? (entity : Entity) (columns : List String) : Option String :=
  columns.find? fun column =>
    column ≠ "*" && (entity.columns.find? (Text.upper column)).isNone

/--
The answer to a query.  A filter that cannot be read is refused first, then an
unknown entity, then a column that it does not have, then what has no statement.
-/
def answerQuery (catalogue : Catalogue) (request : QueryRequest) : Except Failure QueryAnswer :=
  match parseAll request.filters with
  | .error error => .error (.filter error)
  | .ok parsed =>
      let filters := if request.camelCase then parsed.map snakeField else parsed
      match catalogue.find? request.entity with
      | none => .error (.unknownEntity request.entity)
      | some entity =>
          match disallowedColumn? entity request.columns with
          | some column => .error (.columnNotAllowed request.entity column)
          | none =>
              let options : Sql.SelectOptions :=
                { columns := request.columns, style := request.style, quote := request.quote
                  distinct := request.distinct, count := request.count }
              match Sql.select entity.view options
                  (Sql.resolver entity.fieldColumns request.quote) filters with
              | .error error => .error (.statement error)
              | .ok selection => .ok { selection, view := entity.view }

/-- The answer to a query, or the rejection for its failure. -/
def query (catalogue : Catalogue) (request : QueryRequest) : Except Rejection QueryAnswer :=
  match answerQuery catalogue request with
  | .ok answer => .ok answer
  | .error failure => .error failure.rejection

end Service
end RowFilter
