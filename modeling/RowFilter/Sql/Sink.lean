import RowFilter.Value

/-!
# Placeholders and parameters

A sink takes values one after the other, answers each with a placeholder and
keeps the values as the parameters of a statement.  Placeholders are question
marks, or names made of a stem and a running number.
-/

namespace RowFilter
namespace Sql

/-- How placeholders are written. -/
inductive ParamStyle where
  /-- A question mark for each value; parameters by position. -/
  | question
  /-- A name for each value; parameters by name. -/
  | named
deriving DecidableEq, Repr, Inhabited

/-- The style of the given name. -/
def ParamStyle.ofName? (name : String) : Option ParamStyle :=
  if name = "qmark" then some .question
  else if name = "pyformat" then some .named
  else none

/-- The parameters of a statement. -/
inductive Params where
  /-- Parameters by position. -/
  | positional (values : List Value)
  /-- Parameters by name, in the order in which the names came. -/
  | named (entries : List (String × Value))
deriving DecidableEq

/-- The entries after an assignment: an old name keeps its place and takes the new value. -/
def assign (name : String) (value : Value) : List (String × Value) → List (String × Value)
  | [] => [(name, value)]
  | (present, old) :: entries =>
      if present = name then (present, value) :: entries
      else (present, old) :: assign name value entries

/-- What has been bound so far, and how the next value is bound. -/
structure Sink where
  /-- The style of the placeholders. -/
  style : ParamStyle
  /-- What the names of parameters start with. -/
  stem : String := "p"
  /-- The number of the next name. -/
  next : Int := 1
  /-- The values bound by position. -/
  positional : List Value := []
  /-- The values bound by name. -/
  named : List (String × Value) := []
deriving DecidableEq

namespace Sink

/-- The name of the next parameter. -/
def nextName (sink : Sink) : String :=
  sink.stem ++ Text.intText sink.next

/-- The placeholder of the next value. -/
def placeholder (sink : Sink) : String :=
  match sink.style with
  | .question => "?"
  | .named => "%(" ++ sink.nextName ++ ")s"

/-- The sink after the next value has been bound. -/
def bind (sink : Sink) (value : Value) : Sink :=
  match sink.style with
  | .question => { sink with positional := sink.positional ++ [value] }
  | .named =>
      { sink with next := sink.next + 1, named := assign sink.nextName value sink.named }

/-- The parameters bound so far. -/
def params (sink : Sink) : Params :=
  match sink.style with
  | .question => .positional sink.positional
  | .named => .named sink.named

end Sink

/-- A piece of a statement: text, or a value to be bound. -/
inductive Piece where
  /-- Text that stands as it is. -/
  | text (content : String)
  /-- A value, for which a placeholder stands. -/
  | param (value : Value)
deriving DecidableEq

/-- The text of pieces, each value bound in its turn, and the sink after that. -/
def render : List Piece → Sink → String × Sink
  | [], sink => ("", sink)
  | .text content :: pieces, sink =>
      let (rest, final) := render pieces sink
      (content ++ rest, final)
  | .param value :: pieces, sink =>
      let (rest, final) := render pieces (sink.bind value)
      (sink.placeholder ++ rest, final)

end Sql
end RowFilter
