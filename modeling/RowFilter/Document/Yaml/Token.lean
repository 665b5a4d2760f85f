import RowFilter.Document.Yaml.Fault

/-!
# YAML tokens

The tokens of a YAML 1.1 stream, and the classes of characters that tell them
apart.
-/

namespace RowFilter
namespace Yaml

/-- The tokens of a stream. -/
inductive Token where
  /-- The directive that gives the version, by its major number. -/
  | version (major : Nat)
  /-- The directive that gives a handle for tags. -/
  | tagHandle (handle address : List Char)
  /-- Any other directive. -/
  | directive
  /-- The start of a document. -/
  | documentStart
  /-- The end of a document. -/
  | documentEnd
  /-- The end of the stream. -/
  | streamEnd
  /-- A block sequence begins. -/
  | blockSequenceStart
  /-- A block mapping begins. -/
  | blockMappingStart
  /-- A block collection ends. -/
  | blockEnd
  /-- A flow sequence begins. -/
  | flowSequenceStart
  /-- A flow sequence ends. -/
  | flowSequenceEnd
  /-- A flow mapping begins. -/
  | flowMappingStart
  /-- A flow mapping ends. -/
  | flowMappingEnd
  /-- A key comes next. -/
  | key
  /-- A value comes next. -/
  | value
  /-- A member of a block sequence comes next. -/
  | blockEntry
  /-- Another member of a flow collection comes next. -/
  | flowEntry
  /-- The node of an anchor, once more. -/
  | alias (name : List Char)
  /-- A name for the next node. -/
  | anchor (name : List Char)
  /-- A tag for the next node. -/
  | tag (handle : Option (List Char)) (suffix : List Char)
  /-- A scalar, written plain or not. -/
  | scalar (content : List Char) (isPlain : Bool)
deriving DecidableEq, Repr, Inhabited

/-- What can be read of a stream of tokens. -/
structure TokenStream where
  /-- The tokens, in order; the last one of a whole stream ends it. -/
  tokens : List Token
  /-- Why no token comes after these. -/
  stop : Fault := .malformed

/-! ## Characters -/

/-- A character that may stand in a stream. -/
def isAllowed (character : Char) : Bool :=
  let code := character.toNat
  code = 0x09 || code = 0x0A || code = 0x0D || (0x20 ≤ code && code ≤ 0x7E) || code = 0x85 ||
    (0xA0 ≤ code && code ≤ 0xD7FF) || (0xE000 ≤ code && code ≤ 0xFFFD) || 0x10000 ≤ code

/-- A line break. -/
def isBreak (character : Char) : Bool :=
  character = '\n' || character = '\x85' || character = '\u2028' || character = '\u2029'

/-- The end of a line or of the stream; the end of the stream reads as a null character. -/
def isLineEnd (character : Char) : Bool :=
  character = '\x00' || isBreak character

/-- White space, a line break or the end of the stream. -/
def isGap (character : Char) : Bool :=
  character = ' ' || character = '\t' || isLineEnd character

/-- A mark that separates or encloses the members of flow collections. -/
def isFlowMark (character : Char) : Bool :=
  character = ',' || character = '[' || character = ']' || character = '\x7b' ||
    character = '\x7d'

/-- A character of a name. -/
def isNameChar (character : Char) : Bool :=
  character.isAlphanum || character = '-' || character = '_'

/-- A character of the address of a tag. -/
def isAddressChar (character : Char) : Bool :=
  character.isAlphanum || "-;/?:@&=+$,_.!~*\x27()[]%".toList.contains character

end Yaml
end RowFilter
