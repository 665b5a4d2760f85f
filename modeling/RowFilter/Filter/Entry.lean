import RowFilter.Datum
import RowFilter.Filter.Text

/-!
# Filters from structured data

A filter can come in parts that are plain data: a field, an operation, a type,
and a value that is a text or a sequence.  Whatever is not a text is taken by
its text where a name is wanted.  `Filter.toRecord` gives a filter as a
mapping and `Filter.ofRecord` takes one back.
-/

namespace RowFilter

/-- Why data do not make a filter. -/
inductive EntryError where
  /-- The filter is refused. -/
  | filter (error : FilterError)
  /-- A token is no value of the kind, for a field that is not a text. -/
  | invalidValue (field : Datum) (kind : Kind) (token : String)
  /-- The field is not a text. -/
  | fieldNotText
  /-- A membership takes a sequence. -/
  | notSequence
  /-- A date or date-time is wanted. -/
  | notTemporal

/-- The message of an error, where it has one. -/
def EntryError.message? : EntryError → Option String
  | filter error => some error.message
  | invalidValue field kind token =>
      some ("Invalid " ++ kind.name ++ " value for field " ++ field.quoted ++ ": " ++
        Text.quoted token)
  | fieldNotText => none
  | notSequence => none
  | notTemporal => none

/-- A result of the text forms as a result of the structured ones. -/
def liftFilter (result : Except FilterError α) : Except EntryError α :=
  match result with
  | .ok value => .ok value
  | .error error => .error (.filter error)

namespace Datum

/-- The token that names an operation. -/
def operationToken (datum : Datum) : String :=
  datum.plain

/-- The token that names a kind; the absent value gives none. -/
def kindToken : Datum → Option String
  | null => none
  | datum => some datum.plain

/-- What a datum holds when it is taken as a sequence: a mapping its keys, octets their numbers. -/
def members? : Datum → Option (List Datum)
  | octets content => some (content.map fun octet => .int octet.toNat)
  | list items => some items
  | map entries => some (entries.map Prod.fst)
  | set members => some members
  | pair first second => some [first, second]
  | _ => none

/-- Two values that belong together, as a list of two. -/
def listed : Datum → Datum
  | pair first second => .list [first, second]
  | datum => datum

end Datum

namespace Filter

/-- The error of a field that is no text: that of its first bad token, if there is one. -/
def refuseField (field : Datum) (kind : Kind) (tokens : List String) : EntryError :=
  match tokens.find? fun token => (kind.read? token).isNone with
  | some token => .invalidValue field kind token
  | none => .fieldNotText

/--
The filter with the given parts.  An empty field is refused first, then an
unknown operation, then an unknown kind, then a value of the wrong shape, then
the first token that is no value of the kind, and last a field that is no text.
-/
def ofEntry (field operation value kind : Datum) : Except EntryError Filter :=
  if !field.isTruthy then
    .error (.filter (.malformed (joinSegments [field.plain, operation.plain, value.plain])
      emptyField))
  else
    match readOperation operation.operationToken with
    | .error error => .error (.filter error)
    | .ok operation =>
        match readKind kind.kindToken with
        | .error error => .error (.filter error)
        | .ok kind =>
            match operation, value with
            | .test asked, .text content =>
                match field with
                | .text name =>
                    if empty : name = "" then .error .fieldNotText
                    else liftFilter (ofTest name empty asked kind content)
                | _ => .error (refuseField field kind [content])
            | .test _, value =>
                .error (.filter (.malformed
                  (joinSegments [field.plain, operation.name, value.quoted])
                  (operation.name ++ " takes a single value")))
            | .among, value =>
                let tokens? :=
                  match value with
                  | .text content => some (Text.split valueSeparator content)
                  | value => value.members?.map fun members => members.map Datum.plain
                match tokens? with
                | none => .error .notSequence
                | some tokens =>
                    match field with
                    | .text name =>
                        if empty : name = "" then .error .fieldNotText
                        else liftFilter (ofTokens name empty kind tokens)
                    | _ => .error (refuseField field kind tokens)

/-- The names of the parts that a record cannot do without, where they are missing. -/
def missingParts (record : Datum) : List String :=
  ["field", "operation"].filter fun name =>
    !((record.get? name).getD .null).isTruthy

/--
The filter that a record describes.  An absent value is the empty text, and a
pair is taken as a list.
-/
def ofRecord (record : Datum) : Except EntryError Filter :=
  let missing := missingParts record
  if missing ≠ [] then
    .error (.filter (.malformed record.quoted ("missing " ++ Text.commaSeparated missing)))
  else
    ofEntry ((record.get? "field").getD .null) ((record.get? "operation").getD .null)
      ((record.get? "value").getD (.text "")).listed ((record.get? "type").getD .null)

/-- The values of a filter as data: a list for a membership, else one text. -/
def valueData (filter : Filter) : Datum :=
  match filter.condition with
  | .test _ item => .text item.canonical
  | .among items => .list (items.map fun item => .text item.canonical)

/-- A filter as a record. -/
def toRecord (filter : Filter) : Datum :=
  .map
    [(.text "field", .text filter.field), (.text "operation", .text filter.operation.name),
      (.text "type", .text filter.kind.name), (.text "value", filter.valueData)]

end Filter
end RowFilter
