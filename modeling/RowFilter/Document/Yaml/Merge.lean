import RowFilter.Document.Yaml.Node

/-!
# Merged mappings

A key of merging gives a mapping, or a sequence of mappings, whose entries come
before the own entries of the mapping it stands in; of a sequence the last
mapping comes first.  Merging resolves these keys in the nodes of a document,
once for each of them, so a mapping may merge itself.
-/

namespace RowFilter
namespace Yaml

/-- The tag of a node. -/
def tagAt? (nodes : Array Node) (number : Nat) : Option Tag :=
  (nodes[number]?).map Node.tag

/-- The entries of a node that is a mapping. -/
def entriesAt? (nodes : Array Node) (number : Nat) : Option (List (Nat × Nat)) :=
  match (nodes[number]?).map Node.content with
  | some (.mapping entries) => some entries
  | _ => none

/-- The nodes where a mapping has the given entries. -/
def setEntries (nodes : Array Node) (number : Nat) (entries : List (Nat × Nat)) : Array Node :=
  match nodes[number]? with
  | some node => nodes.setIfInBounds number { node with content := .mapping entries }
  | none => nodes

/-- The value of the first key of merging, and the entries without that key. -/
def takeMerge? (nodes : Array Node) :
    List (Nat × Nat) → Option (Nat × List (Nat × Nat))
  | [] => none
  | (key, value) :: entries =>
      if tagAt? nodes key = some .merge then some (value, entries)
      else
        (takeMerge? nodes entries).map fun (found, others) => (found, (key, value) :: others)

/-- The nodes where each key of the default value among the given entries is a text. -/
def plainDefaults (nodes : Array Node) (entries : List (Nat × Nat)) : Array Node :=
  entries.foldl
    (fun nodes entry =>
      match nodes[entry.1]? with
      | some node =>
          if node.tag = .default then nodes.setIfInBounds entry.1 { node with tag := .text }
          else nodes
      | none => nodes)
    nodes

/--
The nodes where the keys of merging in a mapping are resolved.  Entries that
have been merged so far stand in `merged`, in order.  Every key that is resolved
takes some of the fuel.
-/
def mergeInto (merged : List (Nat × Nat)) (nodes : Array Node) (number : Nat) :
    Nat → Except Fault (Array Node)
  | 0 => .error .malformed
  | fuel + 1 =>
      match entriesAt? nodes number with
      | none => .error .malformed
      | some entries =>
          match takeMerge? nodes entries with
          | none =>
              let nodes := plainDefaults nodes entries
              .ok (if merged = [] then nodes else setEntries nodes number (merged ++ entries))
          | some (value, others) => do
              let nodes := setEntries nodes number others
              match (nodes[value]?).map Node.content with
              | some (.mapping _) =>
                  let nodes ← mergeInto [] nodes value fuel
                  mergeInto (merged ++ (entriesAt? nodes value).getD []) nodes number fuel
              | some (.sequence items) =>
                  let (nodes, parts) ← items.foldlM
                    (fun (nodes, parts) item => do
                      let nodes ← mergeInto [] nodes item fuel
                      return (nodes, (entriesAt? nodes item).getD [] :: parts))
                    (nodes, [])
                  mergeInto (merged ++ parts.flatten) nodes number fuel
              | _ => .error .malformed

/-- The number of entries of all mappings. -/
def countEntries (nodes : Array Node) : Nat :=
  nodes.foldl
    (fun count node =>
      match node.content with
      | .mapping entries => count + entries.length
      | _ => count)
    0

/-- The nodes where the keys of merging in a mapping, and in those it merges, are resolved. -/
def merge (nodes : Array Node) (number : Nat) : Except Fault (Array Node) :=
  mergeInto [] nodes number (countEntries nodes + 1)

end Yaml
end RowFilter
