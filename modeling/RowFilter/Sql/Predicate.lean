import RowFilter.Filter.Basic
import RowFilter.Sql.Identifier
import RowFilter.Sql.Sink

/-!
# SQL predicates

A predicate is an atom, or several predicates under one connective.  Joining
two predicates splices the members of an operand that already has the
connective, so nesting always alternates.  `Predicate.pieces` is the text of a
predicate before values are bound.
-/

namespace RowFilter
namespace Sql

/-- A condition on one column. -/
inductive Atom where
  /-- An order relation between a column and a value. -/
  | compare (column : Identifier) (comparison : Comparison) (value : Value)
  /-- A column equals one of several values, of which there is at least one. -/
  | among (column : Identifier) (first : Value) (others : List Value)
  /-- A column in upper case matches a pattern. -/
  | like (column : Identifier) (pattern : Value)
  /-- A condition that no row meets. -/
  | never
deriving DecidableEq

namespace Atom

/-- A column equals one of several values; no row does so without values. -/
def ofValues (column : Identifier) : List Value → Atom
  | [] => .never
  | first :: others => .among column first others

/-- The pieces of an atom. -/
def pieces : Atom → List Piece
  | compare column comparison value =>
      [.text (column.text ++ " " ++ comparison.sign ++ " "), .param value]
  | among column first others =>
      .text (column.text ++ " IN (") :: .param first ::
        (others.flatMap fun value => [.text ", ", .param value]) ++ [.text ")"]
  | like column pattern =>
      [.text ("UPPER(" ++ column.text ++ ") LIKE "), .param pattern, .text " ESCAPE '\\'"]
  | never => [.text "1=0"]

/-- The values of an atom, from left to right. -/
def params : Atom → List Value
  | compare _ _ value => [value]
  | among _ first others => first :: others
  | like _ pattern => [pattern]
  | never => []

/-- Two atoms that are equal, their values compared as equal numbers are. -/
def same : Atom → Atom → Bool
  | compare column comparison value, compare column' comparison' value' =>
      column == column' && comparison == comparison' && value.same value'
  | among column first others, among column' first' others' =>
      column == column' && sameValues (first :: others) (first' :: others')
  | like column pattern, like column' pattern' => column == column' && pattern.same pattern'
  | never, never => true
  | _, _ => false

end Atom

/-- The two ways of joining predicates. -/
inductive Connective where
  /-- All members hold. -/
  | and
  /-- Some member holds. -/
  | or
deriving DecidableEq, Repr, Inhabited

/-- The keyword of a connective. -/
def Connective.keyword : Connective → String
  | .and => "AND"
  | .or => "OR"

/-- A condition on rows. -/
inductive Predicate where
  /-- A condition on one column. -/
  | atom (atom : Atom)
  /-- Several predicates under a connective. -/
  | node (connective : Connective) (members : List Predicate)

namespace Predicate

/-- The members that a predicate contributes to a node of the given connective. -/
def membersUnder (connective : Connective) : Predicate → List Predicate
  | atom condition => [.atom condition]
  | node own members => if own = connective then members else [.node own members]

/-- Two predicates joined by a connective. -/
def join (connective : Connective) (left right : Predicate) : Predicate :=
  .node connective (left.membersUnder connective ++ right.membersUnder connective)

/-- Pieces between parentheses. -/
def parenthesized (pieces : List Piece) : List Piece :=
  .text "(" :: pieces ++ [.text ")"]

/-- The text between the members of a node. -/
def between (connective : Connective) : Piece :=
  .text (" " ++ connective.keyword ++ " ")

mutual

/-- The pieces of a predicate; members of a node that are nodes stand in parentheses. -/
def pieces : Predicate → List Piece
  | atom condition => condition.pieces
  | node connective members => memberPieces connective members

/-- The pieces of the members of a node, the connective between neighbours. -/
def memberPieces (connective : Connective) : List Predicate → List Piece
  | [] => []
  | [member] => groupPieces member
  | member :: other :: members =>
      groupPieces member ++ between connective :: memberPieces connective (other :: members)

/-- The pieces of a member of a node. -/
def groupPieces : Predicate → List Piece
  | atom condition => condition.pieces
  | node connective members => parenthesized (memberPieces connective members)

end

mutual

/-- The values of a predicate, from left to right. -/
def params : Predicate → List Value
  | atom condition => condition.params
  | node _ members => memberParams members

/-- The values of several predicates, from left to right. -/
def memberParams : List Predicate → List Value
  | [] => []
  | member :: members => params member ++ memberParams members

end

mutual

/-- Two predicates of the same structure with the same atoms. -/
def same : Predicate → Predicate → Bool
  | atom left, atom right => left.same right
  | node connective members, node connective' members' =>
      connective == connective' && sameMembers members members'
  | _, _ => false

/-- Two lists of predicates that are the same member by member. -/
def sameMembers : List Predicate → List Predicate → Bool
  | [], [] => true
  | left :: lefts, right :: rights => same left right && sameMembers lefts rights
  | _, _ => false

end

/-- The text of a predicate, with its values bound in a sink. -/
def render (predicate : Predicate) (sink : Sink) : String × Sink :=
  Sql.render predicate.pieces sink

/-- The connective of a node. -/
def connective? : Predicate → Option Connective
  | atom _ => none
  | node connective _ => some connective

/-- The members of a node. -/
def members : Predicate → List Predicate
  | atom _ => []
  | node _ members => members

end Predicate
end Sql
end RowFilter
