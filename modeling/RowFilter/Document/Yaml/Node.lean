import RowFilter.Document.Yaml.Lexer.Run
import RowFilter.Document.Yaml.Tag

/-!
# YAML nodes

The nodes of a document, in the order in which they begin.  Members of a
collection are given by their numbers, so a node may stand in several places,
and a collection may hold itself.  `Document.read` reads a text that holds at
most one document.
-/

namespace RowFilter
namespace Yaml

/-- What a node holds. -/
inductive Content where
  /-- The characters of a scalar. -/
  | scalar (characters : List Char)
  /-- The members of a sequence. -/
  | sequence (items : List Nat)
  /-- The keys and values of a mapping. -/
  | mapping (entries : List (Nat × Nat))
deriving DecidableEq, Repr

/-- A node of a document. -/
structure Node where
  /-- What the node announces. -/
  tag : Tag
  /-- What the node holds. -/
  content : Content
deriving DecidableEq, Repr

/-- What stands for a node that is left out. -/
def Node.empty : Node where
  tag := .null
  content := .scalar []

/-- The nodes of a document and the number of its root. -/
structure Document where
  /-- The nodes by their numbers. -/
  nodes : Array Node
  /-- The number of the root. -/
  root : Nat

/-- What has been read of the tokens of a document. -/
structure Reader where
  /-- The tokens still to be read. -/
  tokens : List Token
  /-- Why no token comes after these. -/
  stop : Fault
  /-- The nodes that have begun. -/
  nodes : Array Node := #[]
  /-- The numbers of the nodes with a name. -/
  anchors : List (List Char × Nat) := []
  /-- The addresses of the handles of tags. -/
  handles : List (List Char × List Char)

/-- The name and the tag of a node. -/
structure Properties where
  /-- The name under which the node can be repeated. -/
  anchor : Option (List Char) := none
  /-- The full name of the tag. -/
  tag : Option (List Char) := none

namespace Properties

/-- There is no tag, or one that says nothing. -/
def isUntagged (properties : Properties) : Bool :=
  properties.tag = none || properties.tag = some ['!']

/-- The tag of a collection. -/
def collectionTag (properties : Properties) (shape : Tag) : Tag :=
  if properties.isUntagged then shape else Tag.ofName (properties.tag.getD [])

/-- The tag of a scalar; without one only a plain scalar is looked into. -/
def scalarTag (properties : Properties) (content : List Char) (isPlain : Bool) : Tag :=
  match properties.tag with
  | none => if isPlain then Tag.ofPlain content else .text
  | some name => if properties.isUntagged then Tag.ofPlain content else Tag.ofName name

end Properties

/-- A step of reading: what is read, and what is then still to be read. -/
abbrev Reading := StateT Reader (Except Fault)

namespace Reading

/-- The text is refused. -/
def refuse : Reading α :=
  throw .malformed

/-- The next token. -/
def current : Reading Token := fun reader =>
  match reader.tokens with
  | token :: _ => .ok (token, reader)
  | [] => .error reader.stop

/-- One token has been read. -/
def advance : Reading Unit :=
  modify fun reader => { reader with tokens := reader.tokens.tail }

/-- The full name of the tag with a handle and what follows it. -/
def fullName (handle : Option (List Char)) (suffix : List Char) : Reading (List Char) := do
  match handle with
  | none => return suffix
  | some handle =>
      match (← get).handles.lookup handle with
      | some address => return address ++ suffix
      | none => refuse

/-- The properties at the front, in either order. -/
def properties : Reading Properties := do
  match ← current with
  | .anchor name =>
      advance
      match ← current with
      | .tag handle suffix =>
          let tag ← fullName handle suffix
          advance
          return { anchor := some name, tag := some tag }
      | _ => return { anchor := some name }
  | .tag handle suffix =>
      advance
      match ← current with
      | .anchor name =>
          let tag ← fullName handle suffix
          advance
          return { anchor := some name, tag := some tag }
      | _ => return { tag := some (← fullName handle suffix) }
  | _ => return {}

/-- The number of the node of a name. -/
def aliased (name : List Char) : Reading Nat := do
  match (← get).anchors.lookup name with
  | some number => return number
  | none => refuse

/-- The number of a node that begins, under its name if it has one; a name is given only once. -/
def begin (anchor : Option (List Char)) (node : Node) : Reading Nat := do
  let number := (← get).nodes.size
  modify fun reader => { reader with nodes := reader.nodes.push node }
  match anchor with
  | none => return number
  | some name =>
      if ((← get).anchors.lookup name).isSome then refuse
      else
        modify fun reader => { reader with anchors := (name, number) :: reader.anchors }
        return number

/-- A collection from its first member on, under the tag and the name that it was given. -/
def collection (properties : Properties) (shape : Tag) (make : List α → Content)
    (members : Reading (List α)) : Reading Nat := do
  let tag := properties.collectionTag shape
  let number ← begin properties.anchor { tag, content := make [] }
  let content := make (← members)
  modify fun reader =>
    { reader with nodes := reader.nodes.setIfInBounds number { tag, content } }
  return number

/-- A node that is left out. -/
def leftOut : Reading Nat :=
  begin none Node.empty

/-- A node without content, which only properties can announce. -/
def announced (properties : Properties) : Reading Nat :=
  if properties.anchor.isNone && properties.tag.isNone then refuse
  else
    begin properties.anchor { tag := properties.scalarTag [] true, content := .scalar [] }

/-- Tokens after which a node of a block collection is left out. -/
def endsBlockMember : Token → Bool
  | .blockEntry | .blockEnd => true
  | _ => false

/-- Tokens after which a member of an unindented sequence is left out. -/
def endsLooseMember : Token → Bool
  | .blockEntry | .key | .value | .blockEnd => true
  | _ => false

/-- Tokens after which a key or a value of a block mapping is left out. -/
def endsBlockPart : Token → Bool
  | .key | .value | .blockEnd => true
  | _ => false

mutual

/--
The node at the front.  In a block a node may be a block collection, and where
it is the value of a key also a sequence that is not indented.
-/
def node : Nat → Bool → Bool → Reading Nat
  | 0, _, _ => refuse
  | fuel + 1, inBlock, mayBeLoose => do
      match ← current with
      | .alias name =>
          advance
          aliased name
      | _ => content fuel inBlock mayBeLoose (← properties)

/-- The content of a node after its properties. -/
def content : Nat → Bool → Bool → Properties → Reading Nat
  | 0, _, _, _ => refuse
  | fuel + 1, inBlock, mayBeLoose, properties => do
      match ← current with
      | .scalar characters isPlain =>
          advance
          begin properties.anchor
            { tag := properties.scalarTag characters isPlain, content := .scalar characters }
      | .flowSequenceStart =>
          advance
          collection properties .sequence .sequence (flowItems fuel true)
      | .flowMappingStart =>
          advance
          collection properties .mapping .mapping (flowEntries fuel true)
      | .blockEntry =>
          if mayBeLoose then collection properties .sequence .sequence (looseItems fuel)
          else announced properties
      | .blockSequenceStart =>
          if inBlock then
            advance
            collection properties .sequence .sequence (blockItems fuel)
          else announced properties
      | .blockMappingStart =>
          if inBlock then
            advance
            collection properties .mapping .mapping (blockEntries fuel)
          else announced properties
      | _ => announced properties

/-- The members of a block sequence up to its end. -/
def blockItems : Nat → Reading (List Nat)
  | 0 => refuse
  | fuel + 1 => do
      match ← current with
      | .blockEnd =>
          advance
          return []
      | .blockEntry =>
          advance
          let item ← if endsBlockMember (← current) then leftOut else node fuel true false
          return item :: (← blockItems fuel)
      | _ => refuse

/-- The members of a sequence that is not indented. -/
def looseItems : Nat → Reading (List Nat)
  | 0 => refuse
  | fuel + 1 => do
      match ← current with
      | .blockEntry =>
          advance
          let item ← if endsLooseMember (← current) then leftOut else node fuel true false
          return item :: (← looseItems fuel)
      | _ => return []

/-- A key or a value of a block mapping, which may be left out. -/
def blockPart : Nat → Reading Nat
  | 0 => refuse
  | fuel + 1 => do
      if endsBlockPart (← current) then leftOut else node fuel true true

/-- The entries of a block mapping up to its end. -/
def blockEntries : Nat → Reading (List (Nat × Nat))
  | 0 => refuse
  | fuel + 1 => do
      match ← current with
      | .blockEnd =>
          advance
          return []
      | .key =>
          advance
          let key ← blockPart fuel
          let value ←
            if (← current) = .value then do
              advance
              blockPart fuel
            else leftOut
          return (key, value) :: (← blockEntries fuel)
      | _ => refuse

/-- A key or a value of a flow collection, which is left out before the given end and a comma. -/
def flowPart : Nat → List Token → Reading Nat
  | 0, _ => refuse
  | fuel + 1, ends => do
      let token ← current
      if token = .flowEntry || ends.contains token then leftOut else node fuel false false

/-- The value after a key of a flow collection, which may be left out. -/
def flowValue : Nat → Token → Reading Nat
  | 0, _ => refuse
  | fuel + 1, finish => do
      if (← current) = .value then
        advance
        flowPart fuel [finish]
      else leftOut

/-- The key after its mark and the value of an entry of a flow collection. -/
def flowEntry : Nat → Token → Reading (Nat × Nat)
  | 0, _ => refuse
  | fuel + 1, finish => do
      advance
      let key ← flowPart fuel [.value, finish]
      let value ← flowValue fuel finish
      return (key, value)

/-- The members of a flow sequence up to its end; a key makes a mapping of one entry. -/
def flowItems : Nat → Bool → Reading (List Nat)
  | 0, _ => refuse
  | fuel + 1, isFirst => do
      let token ← current
      if token = .flowSequenceEnd then
        advance
        return []
      else if !isFirst && token ≠ .flowEntry then refuse
      else
        if !isFirst then advance
        let token ← current
        if token = .flowSequenceEnd then
          advance
          return []
        else
          let item ←
            if token = .key then
              collection {} .mapping .mapping do return [← flowEntry fuel .flowSequenceEnd]
            else node fuel false false
          return item :: (← flowItems fuel false)

/-- The entries of a flow mapping up to its end. -/
def flowEntries : Nat → Bool → Reading (List (Nat × Nat))
  | 0, _ => refuse
  | fuel + 1, isFirst => do
      let token ← current
      if token = .flowMappingEnd then
        advance
        return []
      else if !isFirst && token ≠ .flowEntry then refuse
      else
        if !isFirst then advance
        let token ← current
        if token = .flowMappingEnd then
          advance
          return []
        else
          let entry ←
            if token = .key then flowEntry fuel .flowMappingEnd
            else do
              let key ← node fuel false false
              pure (key, ← leftOut)
          return entry :: (← flowEntries fuel false)

end

/-- The handles that every document has. -/
def defaultHandles : List (List Char × List Char) :=
  [(['!'], ['!']), (['!', '!'], coreAddress)]

/-- The directives at the front; a version is given only once, and so is a handle. -/
def directives (hasVersion : Bool) : Nat → Reading Unit
  | 0 => refuse
  | fuel + 1 => do
      match ← current with
      | .version major =>
          if hasVersion || major ≠ 1 then refuse
          else
            advance
            directives true fuel
      | .tagHandle handle address =>
          if ((← get).handles.lookup handle).isSome then refuse
          else
            advance
            modify fun reader => { reader with handles := (handle, address) :: reader.handles }
            directives hasVersion fuel
      | .directive =>
          advance
          directives hasVersion fuel
      | _ => return ()

/-- The directives and the mark that start a document. -/
def documentStart : Reading Unit := do
  modify fun reader => { reader with handles := [] }
  directives false ((← get).tokens.length + 1)
  if (← current) = .documentStart then
    advance
    modify fun reader => { reader with handles := reader.handles ++ defaultHandles }
  else refuse

/-- Tokens that start a document, with or without directives. -/
def startsDocument : Token → Bool
  | .version _ | .tagHandle _ _ | .directive | .documentStart => true
  | _ => false

/-- Tokens after which the content of a document is left out. -/
def endsDocument (token : Token) : Bool :=
  startsDocument token || token = .documentEnd || token = .streamEnd

/-- Nothing follows the document; the start of another one is read before it is refused. -/
def streamEnd : Reading Unit := do
  modify fun reader => { reader with tokens := reader.tokens.dropWhile (· = .documentEnd) }
  if (← current) ≠ .streamEnd then
    documentStart
    refuse

/-- The root of the only document. -/
def root : Reading Nat := do
  let fuel := 4 * (← get).tokens.length + 4
  let isMarked := startsDocument (← current)
  if isMarked then documentStart
  let root ← if isMarked && endsDocument (← current) then leftOut else node fuel true false
  streamEnd
  return root

end Reading

/-- The document in a text; an empty text holds none. -/
def Document.read (text : List Char) : Except Fault (Option Document) := do
  let stream := TokenStream.ofChars text
  let reader : Reader :=
    { tokens := stream.tokens, stop := stream.stop, handles := Reading.defaultHandles }
  if stream.tokens = [.streamEnd] then return none
  else
    let (root, after) ← Reading.root reader
    return some { nodes := after.nodes, root }

end Yaml
end RowFilter
