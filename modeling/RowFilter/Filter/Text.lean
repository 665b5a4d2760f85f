import RowFilter.Filter.Basic
import RowFilter.Filter.Coercion
import RowFilter.Text.Split

/-!
# Filters as text

A filter is written `field;operation;value` or `field;operation;value;type`.
The values of a membership are separated by `~`.  Neither separator can be
escaped.  `parse` reads such a text and `Filter.encode` writes one.
-/

namespace RowFilter

/-- The character between the segments of a filter. -/
def segmentSeparator : Char := ';'

/-- The character between the values of a membership. -/
def valueSeparator : Char := '~'

/-- Segments in a row, separated. -/
def joinSegments (segments : List String) : String :=
  Text.join segmentSeparator segments

/-- The kind that an optional token names; without a token it is text. -/
def readKind : Option String → Except FilterError Kind
  | none => .ok .text
  | some token =>
      match Kind.ofToken? token with
      | some kind => .ok kind
      | none => .error (.unknownKind token)

/-- The operation that a token names. -/
def readOperation (token : String) : Except FilterError Operation :=
  match Operation.ofToken? token with
  | some operation => .ok operation
  | none => .error (.unknownOperation token)

/-- The reason given for a filter without a field. -/
def emptyField : String :=
  "field must not be empty"

namespace Filter

/-- The filter of a test whose one value is written in a text. -/
def ofTest (field : String) (nonempty : field ≠ "") (asked : Test) (kind : Kind)
    (content : String) : Except FilterError Filter :=
  match coerced : coerce field content kind with
  | .error error => .error error
  | .ok item =>
      .ok
        { field, kind
          condition := .test asked item
          field_ne_empty := nonempty
          kind_of_mem := by
            intro other member
            rw [List.mem_singleton.1 member]
            exact kind_of_coerce coerced }

/-- The filter of a membership whose values are written in tokens. -/
def ofTokens (field : String) (nonempty : field ≠ "") (kind : Kind) (tokens : List String) :
    Except FilterError Filter :=
  match coerced : coerceAll field kind tokens with
  | .error error => .error error
  | .ok items =>
      .ok
        { field, kind
          condition := .among items
          field_ne_empty := nonempty
          kind_of_mem := kind_of_coerceAll coerced }

/-- The filter whose values are written in one text, separated for a membership. -/
def ofContent (field : String) (nonempty : field ≠ "") (operation : Operation) (kind : Kind)
    (content : String) : Except FilterError Filter :=
  match operation with
  | .among => ofTokens field nonempty kind (Text.split valueSeparator content)
  | .test asked => ofTest field nonempty asked kind content

/--
The filter with the given segments.  An empty field is refused first, then an
unknown operation, then an unknown kind, then the first token that is no value
of the kind.
-/
def ofSegments (field operation content : String) (kind : Option String) :
    Except FilterError Filter :=
  if empty : field = "" then
    .error (.malformed (joinSegments [field, operation, content]) emptyField)
  else
    match readOperation operation with
    | .error error => .error error
    | .ok operation =>
        match readKind kind with
        | .error error => .error error
        | .ok kind => ofContent field empty operation kind content

end Filter

/-- A list without the empty texts at its end. -/
def dropEmptyEnd (texts : List String) : List String :=
  (texts.reverse.dropWhile (· = "")).reverse

/-- The segments of a text, without the empty ones at its end. -/
def segments (raw : String) : List String :=
  dropEmptyEnd (Text.split segmentSeparator raw)

/-- The filter that a text denotes; segments after the fourth are ignored. -/
def parse (raw : String) : Except FilterError Filter :=
  match segments raw with
  | field :: operation :: content :: rest => Filter.ofSegments field operation content rest.head?
  | _ => .error (.malformed raw expectedShape)

/-- The filter that a text denotes, where the absent text denotes none. -/
def parseOptional : Option String → Except FilterError Filter
  | none => .error (.malformed "" "filter must not be empty")
  | some raw => parse raw

/-- The filters that texts denote, or the error of the first that denotes none. -/
def parseAll : List (Option String) → Except FilterError (List Filter)
  | [] => .ok []
  | raw :: raws =>
      match parseOptional raw with
      | .error error => .error error
      | .ok filter =>
          match parseAll raws with
          | .error error => .error error
          | .ok filters => .ok (filter :: filters)

namespace Filter

/-- The values of a filter in one text, separated for a membership. -/
def valueText (filter : Filter) : String :=
  Text.join valueSeparator (filter.items.map Value.canonical)

/-- The text of a filter, with its type always given. -/
def encode (filter : Filter) : String :=
  joinSegments [filter.field, filter.operation.name, filter.valueText, filter.kind.name]

end Filter
end RowFilter
