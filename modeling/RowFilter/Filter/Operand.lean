import RowFilter.Filter.Entry

/-!
# Filters from typed operands

An operand is a typed value or a floating-point number, one operand wrapped as
a single value, or several as many values or as a list.  `Filter.ofOperand` builds a filter from an
operand of the right shape whose values are of the right kind, and
`encodeOperand` writes the text of a filter without building it.
-/

namespace RowFilter

/-- What may be offered as the value of a filter. -/
inductive Operand where
  /-- A typed value by itself. -/
  | item (value : Value)
  /-- A binary floating-point number, which is a value of no kind. -/
  | float (number : Binary64)
  /-- One operand as the single value of a filter. -/
  | single (operand : Operand)
  /-- Operands as the many values of a filter. -/
  | many (operands : List Operand)
  /-- A plain list of operands. -/
  | list (operands : List Operand)

namespace Operand

/-- Texts as a tuple is shown: a lone member is followed by a comma. -/
def tupleText : List String → String
  | [text] => "(" ++ text ++ ",)"
  | texts => "(" ++ Text.commaSeparated texts ++ ")"

mutual

/-- An operand as it is shown in messages. -/
def quoted : Operand → String
  | item value => value.quoted
  | float number => number.text
  | single operand => "Scalar(item=" ++ quoted operand ++ ")"
  | many operands => "Many(items=" ++ tupleText (quotedAll operands) ++ ")"
  | list operands => Text.bracketed (quotedAll operands)

/-- Operands as they are shown in messages. -/
def quotedAll : List Operand → List String
  | [] => []
  | operand :: operands => quoted operand :: quotedAll operands

end

/-- The text of an operand by itself. -/
def plain : Operand → String
  | item value => value.plain
  | operand => operand.quoted

/-- An operand that counts as true where a truth value is wanted. -/
def isTruthy : Operand → Bool
  | item value => value.isTruthy
  | float number => !number.isZero
  | single _ => true
  | many _ => true
  | list operands => !operands.isEmpty

/--
The text of an operand under a kind.  Under a kind of dates it has to be one;
a date-time may stand for a date and is then written in full.
-/
def render (kind : Kind) (operand : Operand) : Except EntryError String :=
  match kind, operand with
  | .bool, operand => .ok (if operand.isTruthy then "true" else "false")
  | .dateTime, item (.dateTime moment) => .ok moment.text
  | .dateTime, _ => .error .notTemporal
  | .date, item (.date day) => .ok day.text
  | .date, item (.dateTime moment) => .ok moment.text
  | .date, _ => .error .notTemporal
  | _, operand => .ok operand.plain

/-- The text of an operand inside a filter: a text stands for itself under every kind. -/
def segment (kind : Kind) : Operand → Except EntryError String
  | item (.text content) => .ok content
  | operand => operand.render kind

/-- The texts of operands inside a filter, or the first error. -/
def segmentAll (kind : Kind) : List Operand → Except EntryError (List String)
  | [] => .ok []
  | operand :: operands =>
      match operand.segment kind with
      | .error error => .error error
      | .ok text =>
          match segmentAll kind operands with
          | .error error => .error error
          | .ok texts => .ok (text :: texts)

/-- The value of an operand that is one of the given kind. -/
def ofKind? (kind : Kind) : Operand → Option Value
  | item value => if value.kind = some kind then some value else none
  | _ => none

/-- The values of operands that are all of the given kind, or the first that is not. -/
def valuesOfKind (kind : Kind) : List Operand → Except Operand (List Value)
  | [] => .ok []
  | operand :: operands =>
      match operand.ofKind? kind with
      | none => .error operand
      | some value =>
          match valuesOfKind kind operands with
          | .error refused => .error refused
          | .ok values => .ok (value :: values)

theorem kind_of_ofKind?
    {kind : Kind} {operand : Operand} {value : Value}
    (found : operand.ofKind? kind = some value) :
    value.kind = some kind := by
  cases operand <;> simp only [ofKind?, reduceCtorEq] at found
  split at found
  · next same => cases found; exact same
  · cases found

theorem kind_of_valuesOfKind
    {kind : Kind} {operands : List Operand} {values : List Value}
    (found : valuesOfKind kind operands = .ok values) :
    ∀ value ∈ values, value.kind = some kind := by
  induction operands generalizing values with
  | nil => cases found; simp
  | cons operand operands inductionHypothesis =>
      unfold valuesOfKind at found
      split at found
      · cases found
      · next first firstFound =>
          split at found
          · cases found
          · next rest restFound =>
              cases found
              intro value member
              rcases List.mem_cons.1 member with rfl | member
              · exact kind_of_ofKind? firstFound
              · exact inductionHypothesis restFound value member

end Operand

namespace Filter

/-- The parts of a filter as they are shown in messages. -/
def shownParts (field : Datum) (operation : Operation) (operand : Operand) (kind : Kind) :
    String :=
  "Filter(field=" ++ field.quoted ++ ", operation=<Operation." ++ operation.name ++ ": '" ++
    operation.name ++ "'>, value=" ++ operand.quoted ++ ", type=<FilterType." ++ kind.name ++
    ": '" ++ kind.name ++ "'>)"

/-- The reason given for a value that is not of the kind. -/
def notOfKind (operand : Operand) (kind : Kind) : String :=
  operand.quoted ++ " is not a " ++ kind.name ++ " value"

/-- The reason given for a value of the wrong shape for its operation. -/
def wrongShape : String :=
  "IN takes a multi-value, every other operation a single value"

/--
The filter with the given parts.  An unknown operation is refused first, then
an unknown kind, an empty field, a value that is neither single nor many, a
shape that does not suit the operation, the first value of another kind, and
last a field that is no text.
-/
def ofOperand (field operation : Datum) (operand : Operand) (kind : Datum) :
    Except EntryError Filter :=
  match readOperation operation.operationToken with
  | .error error => .error (.filter error)
  | .ok operation =>
      match readKind kind.kindToken with
      | .error error => .error (.filter error)
      | .ok kind =>
          let refuse (reason : String) : Except EntryError Filter :=
            .error (.filter (.malformed (shownParts field operation operand kind) reason))
          if !field.isTruthy then refuse emptyField
          else
            match operation, operand with
            | .test asked, .single offered =>
                match found : offered.ofKind? kind with
                | none => refuse (notOfKind offered kind)
                | some item =>
                    match field with
                    | .text name =>
                        if empty : name = "" then .error .fieldNotText
                        else
                          .ok
                            { field := name, kind
                              condition := .test asked item
                              field_ne_empty := empty
                              kind_of_mem := by
                                intro other member
                                rw [List.mem_singleton.1 member]
                                exact Operand.kind_of_ofKind? found }
                    | _ => .error .fieldNotText
            | .among, .many offered =>
                match found : Operand.valuesOfKind kind offered with
                | .error refused => refuse (notOfKind refused kind)
                | .ok items =>
                    match field with
                    | .text name =>
                        if empty : name = "" then .error .fieldNotText
                        else
                          .ok
                            { field := name, kind
                              condition := .among items
                              field_ne_empty := empty
                              kind_of_mem := Operand.kind_of_valuesOfKind found }
                    | _ => .error .fieldNotText
            | _, .single _ => refuse wrongShape
            | _, .many _ => refuse wrongShape
            | _, _ => refuse "value must be Scalar or Many"

end Filter

/--
The text of a filter with the given parts.  Texts are taken as they are, so a
membership may be given already separated; its other operands are sequences.
-/
def encodeOperand (field operation : String) (operand : Operand) (kind : Option String) :
    Except EntryError String :=
  match readOperation operation with
  | .error error => .error (.filter error)
  | .ok operation =>
      match readKind kind with
      | .error error => .error (.filter error)
      | .ok kind =>
          let assemble (value : String) : String :=
            joinSegments [field, operation.name, value, kind.name]
          let assembleAll (operands : List Operand) : Except EntryError String :=
            match Operand.segmentAll kind operands with
            | .error error => .error error
            | .ok texts => .ok (assemble (Text.join valueSeparator texts))
          match operation, operand with
          | .among, .item (.text content) => .ok (assemble content)
          | .among, .many operands => assembleAll operands
          | .among, .list operands => assembleAll operands
          | .among, _ => .error .notSequence
          | .test _, operand =>
              let inner :=
                match operand with
                | .single operand => operand
                | operand => operand
              match inner.segment kind with
              | .error error => .error error
              | .ok text => .ok (assemble text)

end RowFilter
