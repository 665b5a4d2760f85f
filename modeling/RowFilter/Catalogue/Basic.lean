import RowFilter.Catalogue.Schema
import RowFilter.Document.Json
import RowFilter.Document.Path
import RowFilter.Document.Yaml.Survey

/-!
# Catalogues

A catalogue names entities; an entity is a view with its columns under their
names in upper case.  `Catalogue.read` takes the text of a catalogue to its
entities: all of them, or the first reason for which there are none.
-/

namespace RowFilter

/-- A view with its columns. -/
structure Entity where
  /-- The name of the view. -/
  view : String
  /-- The columns, under their names in upper case. -/
  columns : Columns
deriving DecidableEq

/--
The columns that a field can name: those whose name is a text.  Octets are no
text, and as they are shown a small letter stands in front of them.
-/
def Entity.fieldColumns (entity : Entity) : Columns :=
  entity.columns.filter fun column => Text.upper column.1 = column.1

/-- Entities by name, in order. -/
abbrev Catalogue := List (Datum × Entity)

/-- Why a catalogue cannot be read. -/
inductive LoadError where
  /-- There is no file. -/
  | missing (path : String)
  /-- The text is no YAML document. -/
  | yaml (fault : Yaml.Fault)
  /-- The text is no JSON document. -/
  | json (fault : Json.Fault)
  /-- The document does not have the form of a catalogue. -/
  | badForm (path : String)
  /-- The places where the document breaks the form have no order. -/
  | unorderedNames
  /-- A place where the document breaks the form cannot be shown. -/
  | unwritable
  /-- The name of a column is not a text. -/
  | columnNotText
  /-- An enumeration has no members. -/
  | noMembers (column : String)
  /-- A column has members and is no enumeration. -/
  | strayMembers (column : String)
deriving DecidableEq, Repr

/-- The message of an error, where it has one. -/
def LoadError.message? : LoadError → Option String
  | missing path => some ("Entity file not found: " ++ path)
  | yaml fault => fault.message?
  | json fault => fault.message?
  | badForm path => some ("Bad entity file " ++ path ++ ": ")
  | unorderedNames => none
  | unwritable => some Numeral.unwritableMessage
  | columnNotText => none
  | noMembers column => some ("Enumerated column " ++ column ++ " declares no members")
  | strayMembers column => some ("Column " ++ column ++ " lists members but is not ENUM")

namespace Catalogue

/-! ## From data to entities -/

/-- The texts of a sequence. -/
def textsOf (datum : Datum) : List String :=
  match datum with
  | .list items =>
      items.filterMap fun item =>
        match item with
        | .text content => some content
        | _ => none
  | _ => []

/-- The text of a datum; all else counts as empty. -/
def textOf (datum : Datum) : String :=
  match datum with
  | .text content => content
  | _ => ""

/-- The entries of a mapping; all else has none. -/
def entriesOf (datum : Datum) : List (Datum × Datum) :=
  match datum with
  | .map entries => entries
  | _ => []

/-- The type that a column declares. -/
def declaredType (datum : Datum) : ColumnType :=
  let name :=
    match datum with
    | .text name => name
    | datum => textOf ((datum.get? "type").getD .null)
  (ColumnType.ofName? (Text.upper name)).getD .other

/-- The members that a column declares. -/
def declaredMembers (datum : Datum) : List String :=
  textsOf ((datum.get? "members").getD .null)

/--
The column that a datum of the right form declares under a name.  An
enumeration has members and is named like its column unless it has a name of
its own; no other column has members.
-/
def columnSpec (name : String) (datum : Datum) : Except LoadError ColumnSpec :=
  let members := declaredMembers datum
  if declaredType datum = .enumeration then
    if members = [] then .error (.noMembers name)
    else
      let enumName :=
        match datum.get? "enum" with
        | some given => textOf given
        | none => name
      .ok { type := .enumeration, enumName := some enumName, members }
  else if members = [] then .ok { type := declaredType datum }
  else .error (.strayMembers name)

/-- The name of a column as it is written and in upper case; octets are shown as in messages. -/
def columnNames? : Datum → Option (String × String)
  | .text name => some (name, Text.upper name)
  | .octets content =>
      some (Text.quotedOctets content, Text.quotedOctets (Text.upperOctets content))
  | _ => none

/-- The columns that entries declare, under their names in upper case. -/
def columnsFrom (columns : Columns) : List (Datum × Datum) → Except LoadError Columns
  | [] => .ok columns
  | (key, datum) :: entries =>
      match columnNames? key with
      | none => .error .columnNotText
      | some (name, upperName) =>
          match columnSpec name datum with
          | .error error => .error error
          | .ok spec => columnsFrom (columns.insert upperName spec) entries

/-- The entity that a datum of the right form declares. -/
def entity (datum : Datum) : Except LoadError Entity :=
  match columnsFrom [] (entriesOf ((datum.get? "columns").getD .null)) with
  | .error error => .error error
  | .ok columns => .ok { view := textOf ((datum.get? "view").getD .null), columns }

/-- The entities that entries declare, or the first error. -/
def entities : List (Datum × Datum) → Except LoadError Catalogue
  | [] => .ok []
  | (name, datum) :: entries =>
      match entity datum with
      | .error error => .error error
      | .ok first =>
          match entities entries with
          | .error error => .error error
          | .ok others => .ok ((name, first) :: others)

/-- The catalogue that a datum of the right form declares. -/
def ofDatum (datum : Datum) : Except LoadError Catalogue :=
  entities (entriesOf ((datum.get? "entities").getD .null))

/-! ## From text to data -/

/-- The data in a text of the given format; a document that counts as empty is an empty mapping. -/
def readDatum (format : Document.Format) (text : String) : Except LoadError Datum :=
  let text := String.ofList (Document.plainBreaks text.toList)
  match format with
  | .yaml =>
      match Yaml.read text with
      | .error fault => .error (.yaml fault)
      | .ok datum => .ok (if datum.isTruthy then datum else .map [])
  | .json =>
      match Json.read text with
      | .error fault => .error (.json fault)
      | .ok datum => .ok datum

/-- The error of a document at a path that does not have the form of a catalogue. -/
def formError (path : String) : FormFault → LoadError
  | .misshapen => .badForm path
  | .unordered => .unorderedNames
  | .unwritable => .unwritable

/-- The catalogue in the file at a path, where there is one. -/
def read (path : String) (file : Option String) : Except LoadError Catalogue :=
  match file with
  | none => .error (.missing path)
  | some text =>
      match readDatum (Document.formatOf path) text with
      | .error error => .error error
      | .ok datum =>
          match formFault? datum with
          | none => ofDatum datum
          | some fault => .error (formError path fault)

/-! ## Looking up -/

/-- The names of the entities, in order. -/
def names (catalogue : Catalogue) : List Datum :=
  catalogue.map Prod.fst

/-- The entity of the given name. -/
def find? (catalogue : Catalogue) (name : String) : Option Entity :=
  match catalogue with
  | [] => none
  | (.text present, entity) :: others => if present = name then some entity else find? others name
  | _ :: others => find? others name

/-- A line for each entity that tells the number of its columns. -/
def summary (catalogue : Catalogue) : List (Datum × String) :=
  catalogue.map fun (name, entity) =>
    (name, "ok (" ++ Text.natText entity.columns.length ++ " cols)")

end Catalogue
end RowFilter
