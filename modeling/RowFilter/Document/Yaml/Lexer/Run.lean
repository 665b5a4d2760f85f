import RowFilter.Document.Yaml.Lexer.Property
import RowFilter.Document.Yaml.Lexer.Scalar

/-!
# All tokens of a stream

The marks of structure, the choice of the next token by the characters at the
front, and `TokenStream.ofChars`, which takes a text to its tokens.
-/

namespace RowFilter
namespace Yaml
namespace Lexer

/-- A mark of the start or the end of a document. -/
def documentMark? (lexer : Lexer) (token : Token) : Option Lexer :=
  (lexer.closeBlocks (-1)).dropKey?.map fun lexer =>
    { lexer with keyAllowed := false }.advanceBy 3 |>.emit token

/-- The start of a flow collection. -/
def flowStart? (lexer : Lexer) (token : Token) : Option Lexer :=
  lexer.noteKey?.map fun lexer =>
    { lexer with flow := lexer.flow + 1, keyAllowed := true }.advance.emit token

/-- The end of a flow collection. -/
def flowEnd? (lexer : Lexer) (token : Token) : Option Lexer :=
  if lexer.flow = 0 then none
  else
    lexer.dropKey?.map fun lexer =>
      { lexer with flow := lexer.flow - 1, keyAllowed := false }.advance.emit token

/-- The mark of another member of a flow collection. -/
def flowEntry? (lexer : Lexer) : Option Lexer :=
  let lexer : Lexer := { lexer with keyAllowed := true }
  lexer.dropKey?.map fun lexer => lexer.advance.emit .flowEntry

/-- The mark of a member of a block sequence. -/
def blockEntry? (lexer : Lexer) : Option Lexer :=
  if lexer.flow = 0 && !lexer.keyAllowed then none
  else
    let lexer := if lexer.flow = 0 then lexer.openBlock .blockSequenceStart else lexer
    let lexer : Lexer := { lexer with keyAllowed := true }
    lexer.dropKey?.map fun lexer => lexer.advance.emit .blockEntry

/-- The mark of a key. -/
def keyMark? (lexer : Lexer) : Option Lexer :=
  if lexer.flow = 0 && !lexer.keyAllowed then none
  else
    let lexer := if lexer.flow = 0 then lexer.openBlock .blockMappingStart else lexer
    let lexer : Lexer := { lexer with keyAllowed := lexer.flow = 0 }
    lexer.dropKey?.map fun lexer => lexer.advance.emit .key

/-- The mark of a value: the pending key becomes one, or the key is empty. -/
def valueMark? (lexer : Lexer) : Option Lexer :=
  match lexer.pendingHere? with
  | some key =>
      let lexer := lexer.forgetKey.insert key.token .key
      let lexer :=
        if lexer.flow = 0 then
          match lexer.indentTo? key.column with
          | some inside => inside.insert key.token .blockMappingStart
          | none => lexer
        else lexer
      some ({ lexer with keyAllowed := false }.advance.emit .value)
  | none =>
      if lexer.flow = 0 && !lexer.keyAllowed then none
      else
        let lexer := if lexer.flow = 0 then lexer.openBlock .blockMappingStart else lexer
        let lexer : Lexer := { lexer with keyAllowed := lexer.flow = 0 }
        lexer.dropKey?.map fun lexer => lexer.advance.emit .value

/-- The end of the stream. -/
def finish? (lexer : Lexer) : Option Lexer :=
  (lexer.closeBlocks (-1)).dropKey?.map fun lexer => lexer.emit .streamEnd

/-- A plain scalar may start here. -/
def startsPlain (lexer : Lexer) : Bool :=
  let character := lexer.current
  let inFlow := lexer.flow ≠ 0
  if isGap character then false
  else if "-?:,[]\x7b\x7d#&*!|>\x27\"%@`".toList.contains character then
    !isGap (lexer.peek 1) &&
      (character = '-' || (!inFlow && (character = '?' || character = ':')))
  else true

/-- The next token but a directive and a quoted scalar, at the front of the stream. -/
def token? (lexer : Lexer) : Option Lexer :=
  let character := lexer.current
  let inBlock := lexer.flow = 0
  let next := lexer.peek 1
  if lexer.column = 0 && lexer.atDocumentMark '-' then lexer.documentMark? .documentStart
  else if lexer.column = 0 && lexer.atDocumentMark '.' then lexer.documentMark? .documentEnd
  else if character = '[' then lexer.flowStart? .flowSequenceStart
  else if character = '\x7b' then lexer.flowStart? .flowMappingStart
  else if character = ']' then lexer.flowEnd? .flowSequenceEnd
  else if character = '\x7d' then lexer.flowEnd? .flowMappingEnd
  else if character = ',' then lexer.flowEntry?
  else if character = '-' && isGap next then lexer.blockEntry?
  else if character = '?' && (!inBlock || isGap next) then lexer.keyMark?
  else if character = ':' && (!inBlock || isGap next) then lexer.valueMark?
  else if character = '*' then lexer.anchored? .alias
  else if character = '&' then lexer.anchored? .anchor
  else if character = '!' then lexer.tagged?
  else if character = '|' && inBlock then lexer.blockScalar? false
  else if character = '>' && inBlock then lexer.blockScalar? true
  else if lexer.startsPlain then lexer.plainScalar?
  else none

/-- The next token, at the front of the stream. -/
def token (lexer : Lexer) : Except Fault Lexer :=
  if lexer.current = '\x27' || lexer.current = '"' then lexer.quotedScalar
  else if lexer.current = '%' && lexer.column = 0 then lexer.directive
  else orMalformed lexer.token?

/-- All tokens up to the end of the stream, or those that are settled where the lexer stops. -/
def run (lexer : Lexer) : Nat → TokenStream
  | 0 => { tokens := lexer.settled }
  | fuel + 1 =>
      match (lexer.toNextToken (lexer.rest.length + 1)).dropStale? with
      | none => { tokens := lexer.settled }
      | some fresh =>
          let inside := fresh.closeBlocks fresh.column
          if inside.rest.isEmpty then
            match inside.finish? with
            | some finished => { tokens := finished.tokens.reverse }
            | none => { tokens := lexer.settled }
          else
            match inside.token with
            | .ok next => next.run fuel
            | .error stop => { tokens := lexer.settled, stop }

end Lexer

/-- The characters of a stream without a byte order mark at its front. -/
def dropMark : List Char → List Char
  | '\ufeff' :: rest => rest
  | characters => characters

/-- The tokens of a text; a text with a character that may not stand in a stream has none. -/
def TokenStream.ofChars (text : List Char) : TokenStream :=
  if text.all isAllowed then
    let characters := dropMark text
    { rest := characters : Lexer }.run (characters.length + 1)
  else { tokens := [] }

end Yaml
end RowFilter
