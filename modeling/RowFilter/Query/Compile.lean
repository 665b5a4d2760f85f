import RowFilter.Filter.Basic
import RowFilter.Query.Column
import RowFilter.Text.Case

/-!
# Compiling filters

A backend turns comparisons of an expression into predicates and joins
predicates.  Filters are compiled over any backend.

Patterns have two wildcards, `%` for any text and `_` for any character.  A
backslash takes the character after it literally.

Every filter becomes one predicate.  The predicates of all filters but the
searches are joined by AND; those of the searches are joined by OR, and the
group is the last member of the conjunction.  Compilation stops at the first
filter that fails.
-/

namespace RowFilter

/-! ## Backends -/

/-- The operations that compilation asks of expressions and predicates. -/
structure Backend (Expression Predicate : Type) where
  /-- What is known of the column of an expression. -/
  column : Expression → ColumnSpec
  /-- An order relation between an expression and a value. -/
  compare : Expression → Comparison → Value → Predicate
  /-- An expression equals one of several values. -/
  among : Expression → List Value → Predicate
  /-- An expression in upper case matches a pattern. -/
  like : Expression → String → Predicate
  /-- Both predicates hold. -/
  both : Predicate → Predicate → Predicate
  /-- One of two predicates holds. -/
  either : Predicate → Predicate → Predicate

/-- A resolver gives the expression of a field, or refuses the field with an error of filters. -/
abbrev Resolver (Expression : Type) := String → Except FilterError Expression

/-! ## Patterns -/

/-- The characters that a pattern does not take literally. -/
def isPatternMark (character : Char) : Bool :=
  character = '\\' || character = '%' || character = '_'

/-- One character as a pattern that only it matches. -/
def escapeChar (character : Char) : List Char :=
  if isPatternMark character then ['\\', character] else [character]

/-- The pattern that exactly the given characters match. -/
def escapeChars (characters : List Char) : List Char :=
  characters.flatMap escapeChar

/-- The pattern that exactly the given text matches. -/
def escapePattern (text : String) : String :=
  String.ofList (escapeChars text.toList)

/-- The pattern of the texts that contain the given one in upper case. -/
def containsPattern (text : String) : String :=
  String.ofList ('%' :: escapeChars (Text.upperChars text.toList) ++ ['%'])

/-! ## Compilation -/

/-- A membership on an enumeration that names texts which are no members. -/
structure Warning where
  /-- The texts that are no members, each once, in the order of their code points. -/
  ignored : List String
  /-- The field of the filter. -/
  field : String
  /-- The name of the enumeration. -/
  enumName : String
deriving DecidableEq, Repr

/-- The message of a warning. -/
def Warning.message (warning : Warning) : String :=
  "Ignoring values " ++ Text.bracketed (warning.ignored.map Text.quoted) ++
    " for enumerated field " ++ warning.field ++ " (" ++ warning.enumName ++ ")"

/-- The order of texts by their code points. -/
def textLE (left right : String) : Bool :=
  left ≤ right

/-- The texts without repeats, in the order of their code points. -/
def sortedDistinct (texts : List String) : List String :=
  texts.eraseDups.mergeSort textLE

/-- The name under which messages show the enumeration of a field. -/
def enumLabel (field : String) (column : ColumnSpec) : String :=
  match column.enumName with
  | some name => if name = "" then field else name
  | none => field

/-- The first member with the same upper-case form as a value. -/
def matchingMember? (members : List String) (value : Value) : Option String :=
  members.find? fun member => Text.upper member == Text.upper value.plain

/-- The members that the given values name exactly, in the order of the members. -/
def namedMembers (members : List String) (items : List Value) : List String :=
  members.filter fun member => (items.map Value.plain).contains member

/-- The texts of values that name no member. -/
def strangers (members : List String) (items : List Value) : List String :=
  sortedDistinct ((items.map Value.plain).filter fun text => !members.contains text)

/-- The warning of a membership on an enumeration, if some of its values name no member. -/
def membershipWarning? (field : String) (column : ColumnSpec) (items : List Value) :
    Option Warning :=
  match strangers column.members items with
  | [] => none
  | ignored => some { ignored, field, enumName := enumLabel field column }

/-- The predicate of a filter, with the warning that it gives. -/
structure Compiled (Predicate : Type) where
  /-- The predicate. -/
  predicate : Predicate
  /-- The warning, if there is one. -/
  warning : Option Warning := none

variable {Expression Predicate : Type}

/-- The predicate of a test on an expression. -/
def compileTest (backend : Backend Expression Predicate) (field : String) (kind : Kind)
    (asked : Test) (item : Value) (expression : Expression) : Except FilterError Predicate :=
  let column := backend.column expression
  match asked with
  | .compare .eq =>
      if column.isEnumeration then
        match matchingMember? column.members item with
        | some member => .ok (backend.compare expression .eq (.text member))
        | none => .error (.notMember field (enumLabel field column) item)
      else .ok (backend.compare expression .eq (align column.type item))
  | .compare comparison =>
      .ok (backend.compare expression comparison (align column.type item))
  | asked =>
      match item with
      | .text content => .ok (backend.like expression (containsPattern content))
      | _ => .error (.unsupported field (.test asked) kind)

/-- The predicate of a membership on an expression. -/
def compileAmong (backend : Backend Expression Predicate) (field : String)
    (items : List Value) (expression : Expression) : Compiled Predicate :=
  let column := backend.column expression
  if column.isEnumeration then
    { predicate := backend.among expression ((namedMembers column.members items).map .text)
      warning := membershipWarning? field column items }
  else { predicate := backend.among expression (items.map (align column.type)) }

/-- The predicate of a filter, or why it has none. -/
def compileFilter (backend : Backend Expression Predicate) (resolve : Resolver Expression)
    (filter : Filter) : Except FilterError (Compiled Predicate) :=
  match resolve filter.field with
  | .error error => .error error
  | .ok expression =>
      match filter.condition with
      | .test asked item =>
          match compileTest backend filter.field filter.kind asked item expression with
          | .error error => .error error
          | .ok predicate => .ok { predicate }
      | .among items => .ok (compileAmong backend filter.field items expression)

/-- A predicate, and whether it belongs to the group of the searches. -/
structure Conjunct (Predicate : Type) where
  /-- The predicate comes from a search. -/
  isSearch : Bool
  /-- The predicate. -/
  predicate : Predicate

/-- What compiling a list of filters does, up to its first failure. -/
structure Compilation (Result : Type) where
  /-- The fields that were resolved, in order. -/
  calls : List String
  /-- The warnings that were given, in order. -/
  warnings : List Warning
  /-- What came out of it. -/
  outcome : Except FilterError Result

/-- The predicates of filters, one by one. -/
def compileEach (backend : Backend Expression Predicate) (resolve : Resolver Expression) :
    List Filter → Compilation (List (Conjunct Predicate))
  | [] => { calls := [], warnings := [], outcome := .ok [] }
  | filter :: filters =>
      match compileFilter backend resolve filter with
      | .error error => { calls := [filter.field], warnings := [], outcome := .error error }
      | .ok compiled =>
          let rest := compileEach backend resolve filters
          { calls := filter.field :: rest.calls
            warnings := compiled.warning.toList ++ rest.warnings
            outcome := rest.outcome.map fun conjuncts =>
              { isSearch := filter.isSearch, predicate := compiled.predicate } :: conjuncts }

/-- Predicates joined from left to right; without any there is nothing to join. -/
def joinAll? (combine : Predicate → Predicate → Predicate) : List Predicate → Option Predicate
  | [] => none
  | first :: others => some (others.foldl combine first)

/-- The predicates that are no searches, in order. -/
def plainPredicates (conjuncts : List (Conjunct Predicate)) : List Predicate :=
  (conjuncts.filter fun conjunct => !conjunct.isSearch).map Conjunct.predicate

/-- The predicates that are searches, in order. -/
def searchPredicates (conjuncts : List (Conjunct Predicate)) : List Predicate :=
  (conjuncts.filter Conjunct.isSearch).map Conjunct.predicate

/-- The conjunction of all predicates but the searches, with the disjunction of these at its end. -/
def assemble? (backend : Backend Expression Predicate) (conjuncts : List (Conjunct Predicate)) :
    Option Predicate :=
  joinAll? backend.both
    (plainPredicates conjuncts ++ (joinAll? backend.either (searchPredicates conjuncts)).toList)

/-- The predicate of a list of filters; without filters there is none. -/
def compile (backend : Backend Expression Predicate) (resolve : Resolver Expression)
    (filters : List Filter) : Compilation (Option Predicate) :=
  let each := compileEach backend resolve filters
  { calls := each.calls
    warnings := each.warnings
    outcome := each.outcome.map (assemble? backend) }

end RowFilter
