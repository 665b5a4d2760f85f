import RowFilter.Document.Yaml.Merge
import RowFilter.Document.Yaml.Scalar

/-!
# The values of nodes

A survey goes from the root of a document to the values of its nodes, level by
level.  A scalar is read where it is first met; a collection waits until those
met before it are done, so that a fault near the root comes before one further
down.  In a mapping the keys of merging come first, then entry after entry the
key and the value.

`read` gives the plain data that a stream of one document denotes.  A document
may be cyclic, so its data are taken down to a fixed depth.
-/

namespace RowFilter
namespace Yaml

/-- What a node stands for, the members of a collection by their numbers. -/
inductive Shape where
  /-- A scalar. -/
  | scalar (datum : Datum)
  /-- A sequence. -/
  | list (items : List Nat)
  /-- A mapping. -/
  | map (entries : List (Datum × Nat))
  /-- A set. -/
  | set (members : List Datum)
  /-- A sequence of pairs. -/
  | pairs (entries : List (Nat × Nat))

/-- The empty collection that a tag announces. -/
def Tag.emptyShape? : Tag → Option Shape
  | sequence => some (.list [])
  | mapping => some (.map [])
  | set => some (.set [])
  | pairs => some (.pairs [])
  | _ => none

/-- What is known of the values of nodes. -/
structure Survey where
  /-- The nodes by their numbers. -/
  nodes : Array Node
  /-- What the nodes stand for that have been met. -/
  shapes : Array (Option Shape)
  /-- The collections whose members have not been met, in the order in which they were met. -/
  waiting : List Nat := []

namespace Survey

/-- The survey of a document before its root is met. -/
def start (document : Document) : Survey where
  nodes := document.nodes
  shapes := Array.replicate document.nodes.size none

/-- A node stands for the given value. -/
def setShape (survey : Survey) (number : Nat) (shape : Shape) : Survey :=
  { survey with shapes := survey.shapes.setIfInBounds number (some shape) }

/-- The characters of a scalar; a mapping has those of its default value. -/
def characters (survey : Survey) : Nat → Nat → Except Fault (List Char)
  | 0, _ => .error .malformed
  | fuel + 1, number =>
      match (survey.nodes[number]?).map Node.content with
      | some (.scalar characters) => .ok characters
      | some (.mapping entries) =>
          match entries.find? fun entry => tagAt? survey.nodes entry.1 = some .default with
          | some (_, value) => survey.characters fuel value
          | none => .error .malformed
      | _ => .error .malformed

/-- The value of a node whose tag announces no collection. -/
def scalar (survey : Survey) (number : Nat) (node : Node) : Except Fault Datum := do
  let characters ← survey.characters (survey.nodes.size + 1) number
  match node.tag, node.content with
  | .timestamp, .mapping _ => .error .timestampOfMapping
  | tag, _ => readScalar tag characters

/-- A node is met; the first time a scalar is read, and a collection starts to wait. -/
def meet (survey : Survey) (number : Nat) : Except Fault Survey :=
  match survey.shapes[number]?, survey.nodes[number]? with
  | some none, some node =>
      match node.tag.emptyShape? with
      | some shape =>
          .ok { survey.setShape number shape with waiting := survey.waiting ++ [number] }
      | none => (survey.scalar number node).map fun datum => survey.setShape number (.scalar datum)
  | _, _ => .ok survey

/-- The value of a node that has been met as a key, which has to be a scalar. -/
def key (survey : Survey) (number : Nat) : Except Fault Datum :=
  match survey.shapes[number]? with
  | some (some (.scalar datum)) => .ok datum
  | _ => .error .malformed

/-- The entries of a mapping are met, each by its key and then by its value. -/
def meetEntries (survey : Survey) (entries : List (Nat × Nat)) :
    Except Fault (Survey × List (Datum × Nat)) :=
  entries.foldlM
    (fun (survey, known) (keyNumber, valueNumber) => do
      let survey ← survey.meet keyNumber
      let key ← survey.key keyNumber
      let survey ← survey.meet valueNumber
      return (survey, Datum.insertEntry key valueNumber known))
    (survey, [])

/-- The entries of a mapping are met after its keys of merging have been resolved. -/
def meetMapping (survey : Survey) (number : Nat) :
    Except Fault (Survey × List (Datum × Nat)) := do
  let nodes ← merge survey.nodes number
  { survey with nodes }.meetEntries ((entriesAt? nodes number).getD [])

/-- The members of a sequence of pairs are met, each of them a mapping of one entry. -/
def meetPairs (survey : Survey) (items : List Nat) :
    Except Fault (Survey × List (Nat × Nat)) :=
  items.foldlM
    (fun (survey, known) item => do
      match entriesAt? survey.nodes item with
      | some [(first, second)] =>
          let survey ← survey.meet first
          let survey ← survey.meet second
          return (survey, known ++ [(first, second)])
      | _ => .error .malformed)
    (survey, [])

/-- The members of a collection are met, if it has the form that its tag announces. -/
def visit (survey : Survey) (number : Nat) (node : Node) : Except Fault Survey := do
  match node.tag, node.content with
  | .sequence, .sequence items =>
      return (← items.foldlM meet survey).setShape number (.list items)
  | .pairs, .sequence items =>
      let (survey, entries) ← survey.meetPairs items
      return survey.setShape number (.pairs entries)
  | .mapping, .mapping _ =>
      let (survey, entries) ← survey.meetMapping number
      return survey.setShape number (.map entries)
  | .set, .mapping _ =>
      let (survey, entries) ← survey.meetMapping number
      return survey.setShape number (.set (entries.map Prod.fst))
  | _, _ => .error .malformed

/-- The collections that wait are visited, one after the other. -/
def settle (survey : Survey) : Nat → Except Fault Survey
  | 0 => .ok survey
  | fuel + 1 =>
      match survey.waiting with
      | [] => .ok survey
      | number :: waiting =>
          match survey.nodes[number]? with
          | some node => do
              let survey ← { survey with waiting }.visit number node
              survey.settle fuel
          | none => settle { survey with waiting } fuel

/-- The survey of all nodes that the root leads to. -/
def complete (document : Document) : Except Fault Survey := do
  let survey ← (start document).meet document.root
  survey.settle (document.nodes.size + 1)

end Survey

/-! ## From shapes to data -/

/-- The value of a shape without its members. -/
def Shape.outline : Shape → Datum
  | scalar datum => datum
  | map _ => .map []
  | set _ => .set []
  | list _ | pairs _ => .list []

/-- The value of a shape, given those of all nodes. -/
def Shape.datum (data : Array Datum) : Shape → Datum
  | scalar datum => datum
  | list items => .list (items.map fun item => data.getD item .null)
  | map entries => .map (entries.map fun (key, value) => (key, data.getD value .null))
  | set members => .set members
  | pairs entries =>
      .list (entries.map fun (first, second) =>
        .pair (data.getD first .null) (data.getD second .null))

/-- The values of nodes down to a depth; collections beyond it appear without their members. -/
def Shape.dataTo (shapes : Array (Option Shape)) : Nat → Array Datum
  | 0 => shapes.map fun shape => (shape.map Shape.outline).getD .null
  | depth + 1 =>
      let inner := dataTo shapes depth
      shapes.map fun shape => (shape.map (Shape.datum inner)).getD .null

/-! ## The data of a document -/

/-- The depth to which the data of a document are taken. -/
def depthLimit : Nat := 8

/-- The datum of the document in a text; an empty text stands for the absent value. -/
def read (text : String) : Except Fault Datum := do
  match ← Document.read text.toList with
  | none => return .null
  | some document =>
      let survey ← Survey.complete document
      return (Shape.dataTo survey.shapes depthLimit).getD document.root .null

end Yaml
end RowFilter
