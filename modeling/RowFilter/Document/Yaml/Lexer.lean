import RowFilter.Document.Yaml.Token

/-!
# The YAML lexer

What has been read of a stream and what is still to be read.  Indentation is
turned into tokens that open and close block collections, and a colon after a
simple key puts the key's own token in front of it.  The simple keys that a
colon may still follow are kept for each level of flow collections.
-/

namespace RowFilter
namespace Yaml

/-- A place where a simple key may have started. -/
structure PendingKey where
  /-- The number of the token that would be the key. -/
  token : Nat
  /-- The key has to be one, for nothing else may stand there. -/
  isRequired : Bool
  /-- The position of the key in the stream. -/
  index : Nat
  /-- The line of the key. -/
  line : Nat
  /-- The column of the key. -/
  column : Nat

/-- What has been read of a stream, and what is still to be read. -/
structure Lexer where
  /-- The characters still to be read. -/
  rest : List Char
  /-- The number of characters read. -/
  index : Nat := 0
  /-- The number of line breaks read. -/
  line : Nat := 0
  /-- The number of characters read of the line. -/
  column : Nat := 0
  /-- The depth of flow collections. -/
  flow : Nat := 0
  /-- The indentation of the innermost block collection. -/
  indent : Int := -1
  /-- The indentations of the block collections around it. -/
  indents : List Int := []
  /-- A simple key may start here. -/
  keyAllowed : Bool := true
  /-- The keys that a colon may still follow, with their depths. -/
  pending : List (Nat × PendingKey) := []
  /-- The tokens read, the last one first. -/
  tokens : List Token := []
  /-- The number of tokens read. -/
  count : Nat := 0

namespace Lexer

/-- The character at a distance from here; beyond the stream a null character. -/
def peek (lexer : Lexer) (distance : Nat) : Char :=
  (lexer.rest[distance]?).getD '\x00'

/-- The next character. -/
def current (lexer : Lexer) : Char :=
  lexer.rest.headD '\x00'

/-- One character has been read. -/
def advance (lexer : Lexer) : Lexer :=
  match lexer.rest with
  | [] => lexer
  | character :: rest =>
      if isBreak character then
        { lexer with rest, index := lexer.index + 1, line := lexer.line + 1, column := 0 }
      else
        let width := if character = '\ufeff' then 0 else 1
        { lexer with rest, index := lexer.index + 1, column := lexer.column + width }

/-- A number of characters have been read. -/
def advanceBy (lexer : Lexer) : Nat → Lexer
  | 0 => lexer
  | count + 1 => lexer.advance.advanceBy count

/-- The characters at the front that satisfy a condition, and the lexer after them. -/
def takeWhile (lexer : Lexer) (keep : Char → Bool) : List Char × Lexer :=
  let taken := lexer.rest.takeWhile keep
  (taken, lexer.advanceBy taken.length)

/-- The lexer after the characters at the front that satisfy a condition. -/
def skipWhile (lexer : Lexer) (keep : Char → Bool) : Lexer :=
  (lexer.takeWhile keep).2

/-- The line break at the front as it counts in a scalar, and the lexer after it. -/
def takeBreak (lexer : Lexer) : List Char × Lexer :=
  let character := lexer.current
  if character = '\n' || character = '\x85' then (['\n'], lexer.advance)
  else if isBreak character then ([character], lexer.advance)
  else ([], lexer)

/-- A token has been read. -/
def emit (lexer : Lexer) (token : Token) : Lexer :=
  { lexer with tokens := token :: lexer.tokens, count := lexer.count + 1 }

/-- A token is put in front of the token of the given number. -/
def insert (lexer : Lexer) (number : Nat) (token : Token) : Lexer :=
  let later := lexer.count - number
  { lexer with
    tokens := lexer.tokens.take later ++ token :: lexer.tokens.drop later
    count := lexer.count + 1 }

/-- A pending key that a colon can no longer follow: on another line, or too far back. -/
def isStale (lexer : Lexer) (key : PendingKey) : Bool :=
  key.line ≠ lexer.line || 1024 < lexer.index - key.index

/-- The tokens that no later character changes: those in front of the first pending key. -/
def settled (lexer : Lexer) : List Token :=
  let pending := lexer.pending.filter fun entry => !lexer.isStale entry.2
  let count := pending.foldl (fun least entry => min least entry.2.token) lexer.count
  lexer.tokens.reverse.take count

/-- Three dashes or three points at the front, with a gap after them. -/
def atDocumentMark (lexer : Lexer) (mark : Char) : Bool :=
  lexer.current = mark && lexer.peek 1 = mark && lexer.peek 2 = mark && isGap (lexer.peek 3)

/-- A mark of the start or the end of a document at the front. -/
def atSeparator (lexer : Lexer) : Bool :=
  lexer.atDocumentMark '-' || lexer.atDocumentMark '.'

/-! ## Simple keys and indentation -/

/-- The pending key of the innermost flow collection. -/
def pendingHere? (lexer : Lexer) : Option PendingKey :=
  lexer.pending.lookup lexer.flow

/-- The lexer without the pending key of the innermost flow collection. -/
def forgetKey (lexer : Lexer) : Lexer :=
  { lexer with pending := lexer.pending.filter fun entry => entry.1 ≠ lexer.flow }

/-- The pending key will not be one; refused where it has to be. -/
def dropKey? (lexer : Lexer) : Option Lexer :=
  match lexer.pendingHere? with
  | none => some lexer
  | some key => if key.isRequired then none else some lexer.forgetKey

/-- A simple key may start here. -/
def noteKey? (lexer : Lexer) : Option Lexer :=
  if lexer.keyAllowed then
    lexer.dropKey?.map fun lexer =>
      { lexer with
        pending :=
          (lexer.flow,
            { token := lexer.count
              isRequired := lexer.flow = 0 && lexer.indent = lexer.column
              index := lexer.index
              line := lexer.line
              column := lexer.column }) :: lexer.pending }
  else some lexer

/-- The lexer without its stale keys; refused where one of them has to be a key. -/
def dropStale? (lexer : Lexer) : Option Lexer :=
  if lexer.pending.any fun entry => lexer.isStale entry.2 && entry.2.isRequired then none
  else some { lexer with pending := lexer.pending.filter fun entry => !lexer.isStale entry.2 }

/-- The block collections that are indented more than `column` are closed. -/
def closeBlocks (lexer : Lexer) (column : Int) : Lexer :=
  if lexer.flow = 0 then go lexer lexer.indents.length else lexer
where
  /-- Closes at most as many collections as there are around. -/
  go (lexer : Lexer) : Nat → Lexer
    | 0 => lexer
    | count + 1 =>
        if column < lexer.indent then
          let outer := lexer.indents.headD (-1)
          go ({ lexer with indent := outer, indents := lexer.indents.tail }.emit .blockEnd) count
        else lexer

/-- The lexer inside a collection that starts at `column`, if it is indented more. -/
def indentTo? (lexer : Lexer) (column : Nat) : Option Lexer :=
  if lexer.indent < column then
    some { lexer with indent := column, indents := lexer.indent :: lexer.indents }
  else none

/-- A block collection starts at this column, unless it has started already. -/
def openBlock (lexer : Lexer) (start : Token) : Lexer :=
  match lexer.indentTo? lexer.column with
  | some inside => inside.emit start
  | none => lexer

/-! ## Between tokens -/

/-- The lexer at the next token, after blanks, comments and line breaks. -/
def toNextToken (lexer : Lexer) : Nat → Lexer
  | 0 => lexer
  | fuel + 1 =>
      let lexer := lexer.skipWhile (· = ' ')
      let lexer :=
        if lexer.current = '#' then lexer.skipWhile fun character => !isLineEnd character
        else lexer
      if isBreak lexer.current then
        let lexer := lexer.advance
        let lexer := if lexer.flow = 0 then { lexer with keyAllowed := true } else lexer
        lexer.toNextToken fuel
      else lexer

/-- The lexer after the rest of a line that holds nothing but a comment. -/
def endOfLine? (lexer : Lexer) : Option Lexer :=
  let lexer := lexer.skipWhile (· = ' ')
  let lexer :=
    if lexer.current = '#' then lexer.skipWhile fun character => !isLineEnd character else lexer
  if isLineEnd lexer.current then some lexer.takeBreak.2 else none

end Lexer
end Yaml
end RowFilter
