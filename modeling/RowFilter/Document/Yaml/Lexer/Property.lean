import RowFilter.Document.Yaml.Lexer
import RowFilter.Text.Octets

/-!
# Directives, anchors and tags

The tokens that say something of a document or of the node after them.
-/

namespace RowFilter
namespace Yaml
namespace Lexer

/-- The decimal number at the front, and the lexer after it; there is a limit on its digits. -/
def takeNumber (lexer : Lexer) : Except Fault (Nat × Lexer) :=
  match lexer.takeWhile Char.isDigit with
  | ([], _) => .error .malformed
  | (digits, lexer) =>
      if digitLimit < digits.length then .error (.integerTooLong digits.length)
      else
        .ok (digits.foldl (fun value digit => 10 * value + (digit.toNat - 48)) 0, lexer)

/--
The characters of an address, where a percent sign and two hexadecimal digits
give an octet.  Octets in a row, kept in `octets` with the last one first, have
to be characters in UTF-8.
-/
def unescapedFrom (octets : List UInt8) : List Char → Option (List Char)
  | '%' :: high :: low :: rest =>
      match Text.hexDigit? high, Text.hexDigit? low with
      | some first, some second => unescapedFrom (UInt8.ofNat (16 * first + second) :: octets) rest
      | _, _ => none
  | '%' :: _ => none
  | character :: rest =>
      match Text.utf8Chars? octets.reverse, unescapedFrom [] rest with
      | some escaped, some others => some (escaped ++ character :: others)
      | _, _ => none
  | [] => Text.utf8Chars? octets.reverse

/-- The address of a tag at the front with its escapes resolved, and the lexer after it. -/
def takeAddress? (lexer : Lexer) : Option (List Char × Lexer) :=
  match lexer.takeWhile isAddressChar with
  | ([], _) => none
  | (address, lexer) => (unescapedFrom [] address).map fun address => (address, lexer)

/-- The handle of a tag at the front, exclamation marks included, and the lexer after it. -/
def takeHandle? (lexer : Lexer) : Option (List Char × Lexer) :=
  if lexer.current = '!' then
    let (name, after) := lexer.advance.takeWhile isNameChar
    if after.current = '!' then some ('!' :: name ++ ['!'], after.advance)
    else if name = [] && after.current = ' ' then some (['!'], after)
    else none
  else none

/-- The end of a directive's line, with the token of the directive. -/
def endDirective (lexer : Lexer) (token : Token) : Except Fault Lexer :=
  if lexer.current = ' ' || isLineEnd lexer.current then
    orMalformed (lexer.endOfLine?.map fun lexer => lexer.emit token)
  else .error .malformed

/-- The directive that gives the version, after its name. -/
def versionDirective (lexer : Lexer) : Except Fault Lexer := do
  let (major, lexer) ← (lexer.skipWhile (· = ' ')).takeNumber
  if lexer.current ≠ '.' then .error .malformed
  else
    let (_, lexer) ← lexer.advance.takeNumber
    lexer.endDirective (.version major)

/-- The directive that gives a handle for tags, after its name. -/
def handleDirective (lexer : Lexer) : Except Fault Lexer := do
  let (handle, lexer) ← orMalformed (lexer.skipWhile (· = ' ')).takeHandle?
  if lexer.current ≠ ' ' then .error .malformed
  else
    let (address, lexer) ← orMalformed (lexer.skipWhile (· = ' ')).takeAddress?
    lexer.endDirective (.tagHandle handle address)

/-- A directive, up to the end of its line. -/
def directive (lexer : Lexer) : Except Fault Lexer := do
  let lexer ← orMalformed (lexer.closeBlocks (-1)).dropKey?
  match { lexer.advance with keyAllowed := false }.takeWhile isNameChar with
  | ([], _) => .error .malformed
  | (name, lexer) =>
      if !isGap lexer.current || lexer.current = '\t' then .error .malformed
      else if name = "YAML".toList then lexer.versionDirective
      else if name = "TAG".toList then lexer.handleDirective
      else (lexer.skipWhile fun character => !isLineEnd character).endDirective .directive

/-- The name of an anchor or an alias after its mark. -/
def takeAnchorName? (lexer : Lexer) : Option (List Char × Lexer) :=
  match lexer.advance.takeWhile isNameChar with
  | ([], _) => none
  | (name, lexer) =>
      let next := lexer.current
      if isGap next || "?:,]\x7d%@`".toList.contains next then some (name, lexer) else none

/-- An anchor or an alias. -/
def anchored? (lexer : Lexer) (make : List Char → Token) : Option Lexer := do
  let lexer ← lexer.noteKey?
  let (name, lexer) ← { lexer with keyAllowed := false }.takeAnchorName?
  some (lexer.emit (make name))

/-- Whether another exclamation mark comes before the next blank. -/
def hasHandle : List Char → Bool
  | [] => false
  | character :: rest =>
      if character = ' ' || isLineEnd character then false
      else character = '!' || hasHandle rest

/-- A tag after its exclamation mark. -/
def takeTag? (lexer : Lexer) : Option (Token × Lexer) :=
  let next := lexer.peek 1
  if next = '<' then do
    let (suffix, lexer) ← (lexer.advanceBy 2).takeAddress?
    if lexer.current = '>' then some (.tag none suffix, lexer.advance) else none
  else if isGap next then some (.tag none ['!'], lexer.advance)
  else if hasHandle (lexer.rest.drop 1) then do
    let (handle, lexer) ← lexer.takeHandle?
    let (suffix, lexer) ← lexer.takeAddress?
    some (.tag (some handle) suffix, lexer)
  else do
    let (suffix, lexer) ← lexer.advance.takeAddress?
    some (.tag (some ['!']) suffix, lexer)

/-- A tag. -/
def tagged? (lexer : Lexer) : Option Lexer := do
  let lexer ← lexer.noteKey?
  let (token, lexer) ← { lexer with keyAllowed := false }.takeTag?
  if lexer.current = ' ' || isLineEnd lexer.current then some (lexer.emit token) else none

end Lexer
end Yaml
end RowFilter
