import RowFilter.Datum
import RowFilter.Number.Integer
import RowFilter.Query.Column

/-!
# The form of a catalogue

A catalogue is a mapping with the entry `entities`, a mapping from names to
entities.  An entity has a view, which is a text that is not empty, and
columns.  A column is the name of a type, or a mapping with a type, a name for
an enumeration and members.

`violations` lists the places that break the form.  Main statement: there are
none exactly when `isCatalogue` holds.
-/

namespace RowFilter
namespace Catalogue

/-- The name of a column type. -/
def isTypeName (datum : Datum) : Bool :=
  match datum with
  | .text name => (ColumnType.ofName? name).isSome
  | _ => false

/-- A text. -/
def isText (datum : Datum) : Bool :=
  match datum with
  | .text _ => true
  | _ => false

/-- A text that is not empty. -/
def isName (datum : Datum) : Bool :=
  match datum with
  | .text name => name ≠ ""
  | _ => false

/-- A sequence of texts. -/
def areMembers (datum : Datum) : Bool :=
  match datum with
  | .list items => items.all isText
  | _ => false

/-- A key that is one of the given texts. -/
def isKeyAmong (names : List String) (key : Datum) : Bool :=
  match key with
  | .text name => names.contains name
  | _ => false

/-- The form of a column. -/
def isColumn (datum : Datum) : Bool :=
  match datum with
  | .text name => (ColumnType.ofName? name).isSome
  | .map entries =>
      (entries.all fun entry => isKeyAmong ["type", "enum", "members"] entry.1) &&
        ((datum.get? "type").any isTypeName) &&
        ((datum.get? "enum").all isText) &&
        ((datum.get? "members").all areMembers)
  | _ => false

/-- The form of the columns of an entity. -/
def areColumns (datum : Datum) : Bool :=
  match datum with
  | .map entries => entries.all fun entry => isColumn entry.2
  | _ => false

/-- The form of an entity. -/
def isEntity (datum : Datum) : Bool :=
  match datum with
  | .map entries =>
      (entries.all fun entry => isKeyAmong ["view", "columns"] entry.1) &&
        ((datum.get? "view").any isName) &&
        ((datum.get? "columns").any areColumns)
  | _ => false

/-- The form of a mapping from names to entities. -/
def areEntities (datum : Datum) : Bool :=
  match datum with
  | .map entries => entries.all fun entry => isEntity entry.2
  | _ => false

/-- The form of a catalogue. -/
def isCatalogue (datum : Datum) : Bool :=
  match datum with
  | .map _ => (datum.get? "entities").any areEntities
  | _ => false

/-! ## Places that break the form -/

/-- A place that breaks the form. -/
structure Violation where
  /-- The names that lead to the place. -/
  path : List Datum
  /-- The data that are shown of it. -/
  shown : List Datum

/-- A datum that does not have the kind that its place asks for. -/
def Violation.ofKind (path : List Datum) (datum : Datum) : Violation where
  path := path
  shown := [datum]

/-- The columns that break the form. -/
def columnsViolations (path : List Datum) (datum : Datum) : List Violation :=
  match datum with
  | .map entries =>
      (entries.filter fun entry => !isColumn entry.2).map fun entry =>
        .ofKind (path ++ [entry.1]) entry.2
  | datum => [.ofKind path datum]

/-- A name that is no text, or an empty one. -/
def nameViolations (path : List Datum) (datum : Datum) : List Violation :=
  match datum with
  | .text name => if name = "" then [{ path, shown := [] }] else []
  | datum => [.ofKind path datum]

/-- What breaks the form under a name, where there is something. -/
def partViolations (path : List Datum) (entries : List (Datum × Datum)) (name : String)
    (violations : List Datum → Datum → List Violation) : List Violation :=
  match Datum.lookup? name entries with
  | some datum => violations (path ++ [.text name]) datum
  | none => []

/-- A mapping without an entry that it has to have. -/
def missingViolations (path : List Datum) (entries : List (Datum × Datum)) (name : String) :
    List Violation :=
  if (Datum.lookup? name entries).isSome then [] else [{ path, shown := [] }]

/-- A mapping with entries under other names than the given ones. -/
def strayViolations (path : List Datum) (entries : List (Datum × Datum)) (names : List String) :
    List Violation :=
  match (entries.map Prod.fst).filter fun key => !isKeyAmong names key with
  | [] => []
  | strays => [{ path, shown := strays }]

/-- What breaks the form of an entity: other names first, then what the names lead to. -/
def entityViolations (path : List Datum) (datum : Datum) : List Violation :=
  match datum with
  | .map entries =>
      strayViolations path entries ["view", "columns"] ++
        partViolations path entries "view" nameViolations ++
        partViolations path entries "columns" columnsViolations ++
        missingViolations path entries "view" ++ missingViolations path entries "columns"
  | datum => [.ofKind path datum]

/-- The entities that break the form. -/
def entitiesViolations (path : List Datum) (datum : Datum) : List Violation :=
  match datum with
  | .map entries => entries.flatMap fun entry => entityViolations (path ++ [entry.1]) entry.2
  | datum => [.ofKind path datum]

/-- What breaks the form of a catalogue, in order. -/
def violations (datum : Datum) : List Violation :=
  match datum with
  | .map entries =>
      partViolations [] entries "entities" entitiesViolations ++
        missingViolations [] entries "entities"
  | datum => [.ofKind [] datum]

/-! ## The verdict -/

/-- Why a datum that breaks the form is refused. -/
inductive FormFault where
  /-- It does not have the form. -/
  | misshapen
  /-- The places that break the form have no order. -/
  | unordered
  /-- A place cannot be shown, for it holds an integer with too many digits. -/
  | unwritable
deriving DecidableEq, Repr

mutual

/-- Every integer in a datum can be written. -/
def isWritable : Datum → Bool
  | .int number => Numeral.isWritable number
  | .list items => areWritable items
  | .map entries => areWritableEntries entries
  | .set members => areWritable members
  | .pair first second => isWritable first && isWritable second
  | _ => true

/-- Every integer in data can be written. -/
def areWritable : List Datum → Bool
  | [] => true
  | datum :: data => isWritable datum && areWritable data

/-- Every integer in entries can be written. -/
def areWritableEntries : List (Datum × Datum) → Bool
  | [] => true
  | (key, value) :: entries => isWritable key && isWritable value && areWritableEntries entries

end

/-- Whether the first of two paths of one length comes later, by the first names that differ. -/
def isLater? : List Datum → List Datum → Option Bool
  | name :: names, name' :: names' =>
      if name.sameKey name' then isLater? names names' else name.isAfter? name'
  | _, _ => some false

/--
The fault of a datum from its violations on: the shortest paths count most,
and of those of one length the later ones.  The path that counts most so far is
`best`; each violation is shown before it is compared.
-/
def judge (best : Option (List Datum)) : List Violation → FormFault
  | [] => .misshapen
  | violation :: rest =>
      if !areWritable violation.shown then .unwritable
      else
        match best with
        | none => judge (some violation.path) rest
        | some path =>
            if path.length < violation.path.length then judge best rest
            else if violation.path.length < path.length then judge (some violation.path) rest
            else
              match isLater? violation.path path with
              | none => .unordered
              | some later => judge (some (if later then violation.path else path)) rest

/-- The fault of a datum, if it does not have the form of a catalogue. -/
def formFault? (datum : Datum) : Option FormFault :=
  match violations datum with
  | [] => none
  | found => some (judge none found)

/-! ## No place breaks the form of a catalogue -/

theorem columnsViolations_eq_nil (path : List Datum) (datum : Datum) :
    columnsViolations path datum = [] ↔ areColumns datum = true := by
  cases datum <;> simp [columnsViolations, areColumns]

theorem nameViolations_eq_nil (path : List Datum) (datum : Datum) :
    nameViolations path datum = [] ↔ isName datum = true := by
  cases datum <;> simp [nameViolations, isName]

theorem strayViolations_eq_nil
    (path : List Datum) (entries : List (Datum × Datum)) (names : List String) :
    strayViolations path entries names = [] ↔
      (entries.all fun entry => isKeyAmong names entry.1) = true := by
  unfold strayViolations
  split
  · next none =>
      simpa [List.filter_eq_nil_iff] using none
  · next some =>
      simp only [List.cons_ne_self, false_iff]
      intro all
      apply some
      simpa [List.filter_eq_nil_iff] using all

theorem entityViolations_eq_nil (path : List Datum) (datum : Datum) :
    entityViolations path datum = [] ↔ isEntity datum = true := by
  cases datum with
  | map entries =>
      cases view : Datum.lookup? "view" entries <;>
        cases columns : Datum.lookup? "columns" entries <;>
        simp [entityViolations, isEntity, Datum.get?, partViolations, missingViolations, view,
          columns, strayViolations_eq_nil, nameViolations_eq_nil, columnsViolations_eq_nil,
          and_assoc]
  | _ => simp [entityViolations, isEntity]

theorem entitiesViolations_eq_nil (path : List Datum) (datum : Datum) :
    entitiesViolations path datum = [] ↔ areEntities datum = true := by
  cases datum <;>
    simp [entitiesViolations, areEntities, List.flatMap_eq_nil_iff, entityViolations_eq_nil]

theorem violations_eq_nil (datum : Datum) :
    violations datum = [] ↔ isCatalogue datum = true := by
  cases datum with
  | map entries =>
      cases found : Datum.lookup? "entities" entries <;>
        simp [violations, isCatalogue, Datum.get?, partViolations, missingViolations, found,
          entitiesViolations_eq_nil]
  | _ => simp [violations, isCatalogue]

theorem formFault?_eq_none (datum : Datum) :
    formFault? datum = none ↔ isCatalogue datum = true := by
  rw [← violations_eq_nil, formFault?]
  split <;> simp_all

end Catalogue
end RowFilter
