import RowFilter.Calendar.DateTime
import RowFilter.Number.Binary64
import RowFilter.Text.Octets

/-!
# Plain data

The values that structured documents hold: scalars and collections of them.  A
map keeps its entries in the order in which their keys came first.
-/

namespace RowFilter

/-- A value of a structured document. -/
inductive Datum where
  /-- The absent value. -/
  | null
  /-- A truth value. -/
  | bool (truth : Bool)
  /-- An integer. -/
  | int (number : Int)
  /-- A floating-point number. -/
  | float (number : Binary64)
  /-- A text. -/
  | text (content : String)
  /-- A date. -/
  | date (day : Date)
  /-- A date-time. -/
  | dateTime (moment : DateTime)
  /-- A date-time with a zone. -/
  | zoned (moment : ZonedDateTime)
  /-- Octets. -/
  | octets (content : List UInt8)
  /-- A sequence. -/
  | list (items : List Datum)
  /-- A mapping, with its entries in order. -/
  | map (entries : List (Datum × Datum))
  /-- A set, with its members in order. -/
  | set (members : List Datum)
  /-- Two values that belong together. -/
  | pair (first second : Datum)
deriving Inhabited

namespace Datum

mutual

/-- A datum as it is shown in messages. -/
def quoted : Datum → String
  | null => "None"
  | bool truth => if truth then "True" else "False"
  | int number => Text.intText number
  | float number => number.text
  | text content => Text.quoted content
  | date day => day.quoted
  | dateTime moment => moment.quoted
  | zoned moment => moment.quoted
  | octets content => Text.quotedOctets content
  | list items => Text.bracketed (quotedItems items)
  | map entries => "\x7b" ++ Text.commaSeparated (quotedEntries entries) ++ "\x7d"
  | set members =>
      if members.isEmpty then "set()"
      else "\x7b" ++ Text.commaSeparated (quotedItems members) ++ "\x7d"
  | pair first second => "(" ++ quoted first ++ ", " ++ quoted second ++ ")"

/-- The members of a sequence as they are shown in messages. -/
def quotedItems : List Datum → List String
  | [] => []
  | item :: items => quoted item :: quotedItems items

/-- The entries of a mapping as they are shown in messages. -/
def quotedEntries : List (Datum × Datum) → List String
  | [] => []
  | (key, value) :: entries => (quoted key ++ ": " ++ quoted value) :: quotedEntries entries

end

/-- The text of a datum: texts and dates stand for themselves, all else is shown as in messages. -/
def plain : Datum → String
  | text content => content
  | date day => day.text
  | dateTime moment => moment.spacedText
  | zoned moment => moment.spacedText
  | datum => quoted datum

/-- A datum that counts as present: not zero, not empty, not false, not absent. -/
def isTruthy : Datum → Bool
  | null => false
  | bool truth => truth
  | int number => number ≠ 0
  | float number => !number.isZero
  | text content => content ≠ ""
  | octets content => !content.isEmpty
  | list items => !items.isEmpty
  | map entries => !entries.isEmpty
  | set members => !members.isEmpty
  | _ => true

/-- The integer that a scalar stands for; truth values count as zero and one. -/
def integer? : Datum → Option Int
  | bool truth => some (if truth then 1 else 0)
  | int number => some number
  | _ => none

/--
Two scalars that are the same key of a mapping: numbers by what they denote,
date-times with a zone by their instant, and not-a-number is a key of its own.
-/
def sameKey (left right : Datum) : Bool :=
  match left, right with
  | null, null => true
  | text content, text content' => content == content'
  | octets content, octets content' => content == content'
  | date day, date day' => day == day'
  | dateTime moment, dateTime moment' => moment == moment'
  | zoned moment, zoned moment' => moment.instant == moment'.instant
  | float .nan, float .nan => true
  | float number, float number' => number.same number'
  | float number, other | other, float number =>
      match other.integer? with
      | some value => number.sameAsInt value
      | none => false
  | _, _ =>
      match left.integer?, right.integer? with
      | some value, some value' => value == value'
      | _, _ => false

/--
Whether the first of two scalars comes after the second, where they have an
order: numbers by what they denote, texts and octets by their parts, and dates
and date-times each among their own.
-/
def isAfter? (left right : Datum) : Option Bool :=
  match left, right with
  | text content, text content' => some (content' < content)
  | octets content, octets content' => some (content' < content)
  | date day, date day' => some (day'.number < day.number)
  | dateTime moment, dateTime moment' => some (moment'.microseconds < moment.microseconds)
  | zoned moment, zoned moment' => some (moment'.instant < moment.instant)
  | float number, float number' => some (number.exceeds number')
  | float number, other => other.integer?.map fun value => number.exceedsInt value
  | other, float number => other.integer?.map fun value => number.belowInt value
  | left, right =>
      match left.integer?, right.integer? with
      | some value, some value' => some (value' < value)
      | _, _ => none

/-- The entries after an assignment: an old key keeps its place and takes the new value. -/
def insertEntry (key : Datum) (value : α) : List (Datum × α) → List (Datum × α)
  | [] => [(key, value)]
  | (present, old) :: entries =>
      if present.sameKey key then (present, value) :: entries
      else (present, old) :: insertEntry key value entries

/-- The mapping that holds the given entries, assigned one after the other. -/
def ofEntries (entries : List (Datum × Datum)) : Datum :=
  .map (entries.foldl (fun present entry => insertEntry entry.1 entry.2 present) [])

/-- The value under a text key of a list of entries. -/
def lookup? (name : String) : List (Datum × Datum) → Option Datum
  | [] => none
  | (.text key, value) :: entries => if key = name then some value else lookup? name entries
  | _ :: entries => lookup? name entries

/-- The value under a text key of a mapping. -/
def get? (datum : Datum) (name : String) : Option Datum :=
  match datum with
  | .map entries => lookup? name entries
  | _ => none

end Datum
end RowFilter
