import RowFilter.Calendar.DateTime
import RowFilter.Number.Decimal

/-!
# Typed values

The values that filters compare with and that statements bind.  `Value.kind`
tells the kind of a value; the three texts of a value are the canonical one,
which reads back under its kind, the plain one and the quoted one.
-/

namespace RowFilter

/-- The kinds of values that a filter can declare. -/
inductive Kind where
  /-- Text, taken as it is. -/
  | text
  /-- A truth value. -/
  | bool
  /-- A calendar date. -/
  | date
  /-- A local date-time. -/
  | dateTime
  /-- A signed integer of 64 bits. -/
  | int
  /-- An exact decimal number. -/
  | decimal
deriving DecidableEq, Repr, Inhabited

namespace Kind

/-- All kinds, in the order of the reference. -/
def all : List Kind :=
  [.text, .bool, .date, .dateTime, .int, .decimal]

/-- The name of a kind in a filter. -/
def name : Kind → String
  | text => "STRING"
  | bool => "BOOL"
  | date => "DATE"
  | dateTime => "DATETIME"
  | int => "INT"
  | decimal => "FLOAT"

/-- The kind that a token names, in any case. -/
def ofToken? (token : String) : Option Kind :=
  all.find? fun kind => kind.name == Text.upper token

end Kind

/-- A value of one of the kinds, or the absent value. -/
inductive Value where
  /-- The absent value. -/
  | null
  /-- A text. -/
  | text (content : String)
  /-- A truth value. -/
  | bool (truth : Bool)
  /-- A date. -/
  | date (day : Date)
  /-- A date-time. -/
  | dateTime (moment : DateTime)
  /-- An integer of any size. -/
  | int (number : Int)
  /-- A decimal. -/
  | decimal (number : Decimal)
deriving DecidableEq

namespace Value

/-- The kind of a value; the absent value has none. -/
def kind : Value → Option Kind
  | null => none
  | text _ => some .text
  | bool _ => some .bool
  | date _ => some .date
  | dateTime _ => some .dateTime
  | int _ => some .int
  | decimal _ => some .decimal

/-- The text that stands for a value inside a filter and reads back under its kind. -/
def canonical : Value → String
  | null => "None"
  | text content => content
  | bool truth => if truth then "true" else "false"
  | date day => day.text
  | dateTime moment => moment.text
  | int number => Text.intText number
  | decimal number => number.text

/-- The text of a value by itself, without regard to a kind. -/
def plain : Value → String
  | null => "None"
  | text content => content
  | bool truth => if truth then "True" else "False"
  | date day => day.text
  | dateTime moment => moment.spacedText
  | int number => Text.intText number
  | decimal number => number.text

/-- A value as it is shown in messages, with its kind to be seen. -/
def quoted : Value → String
  | null => "None"
  | text content => Text.quoted content
  | bool truth => if truth then "True" else "False"
  | date day => day.quoted
  | dateTime moment => moment.quoted
  | int number => Text.intText number
  | decimal number => "Decimal('" ++ number.text ++ "')"

/-- A value that counts as true where a truth value is wanted. -/
def isTruthy : Value → Bool
  | null => false
  | text content => content ≠ ""
  | bool truth => truth
  | date _ => true
  | dateTime _ => true
  | int number => number ≠ 0
  | decimal number => !number.isZero

/-- The integer that a value stands for; truth values count as zero and one. -/
def integer? : Value → Option Int
  | bool truth => some (if truth then 1 else 0)
  | int number => some number
  | _ => none

/-- Two values that are equal: numbers by what they denote, all others by what they are. -/
def same (left right : Value) : Bool :=
  match left, right with
  | decimal number, decimal number' => number.same number'
  | decimal number, other | other, decimal number =>
      match other.integer? with
      | some value => number.sameAsInt value
      | none => false
  | left, right =>
      match left.integer?, right.integer? with
      | some value, some value' => value == value'
      | none, none => left == right
      | _, _ => false

end Value

/-- Two lists of values that are equal member by member. -/
def sameValues : List Value → List Value → Bool
  | [], [] => true
  | left :: lefts, right :: rights => left.same right && sameValues lefts rights
  | _, _ => false

end RowFilter
