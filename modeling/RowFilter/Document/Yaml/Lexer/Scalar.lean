import RowFilter.Document.Yaml.Lexer
import RowFilter.Text.Octets

/-!
# Scalar tokens

The four ways to write a scalar: as a block, between single or double quotes,
and plain.  A line break inside a scalar counts as a blank where it stands
alone, and further breaks count as they are.
-/

namespace RowFilter
namespace Yaml
namespace Lexer

/-! ## Block scalars -/

/-- The line breaks in front of lines indented less than `indent`, and the lexer after them. -/
def takeBlockBreaks (lexer : Lexer) (indent : Nat) (breaks : List Char) :
    Nat → List Char × Lexer
  | 0 => (breaks, lexer)
  | fuel + 1 =>
      if lexer.column < indent && lexer.current = ' ' then
        lexer.advance.takeBlockBreaks indent breaks fuel
      else if isBreak lexer.current then
        let (taken, lexer) := lexer.takeBreak
        lexer.takeBlockBreaks indent (breaks ++ taken) fuel
      else (breaks, lexer)

/-- The line breaks and blanks at the front, and the largest column reached in them. -/
def takeBlockIndent (lexer : Lexer) (breaks : List Char) (largest : Nat) :
    Nat → List Char × Nat × Lexer
  | 0 => (breaks, largest, lexer)
  | fuel + 1 =>
      if lexer.current = ' ' then
        let lexer := lexer.advance
        lexer.takeBlockIndent breaks (max largest lexer.column) fuel
      else if isBreak lexer.current then
        let (taken, lexer) := lexer.takeBreak
        lexer.takeBlockIndent (breaks ++ taken) largest fuel
      else (breaks, largest, lexer)

/-- The lines of a block scalar, with the last break and the breaks after it. -/
def takeBlockLines (lexer : Lexer) (isFolded : Bool) (indent : Nat)
    (content lastBreak breaks : List Char) :
    Nat → List Char × List Char × List Char × Lexer
  | 0 => (content, lastBreak, breaks, lexer)
  | fuel + 1 =>
      if lexer.column = indent && lexer.current ≠ '\x00' then
        let startsDark := lexer.current ≠ ' ' && lexer.current ≠ '\t'
        let (line, lexer) := lexer.takeWhile fun character => !isLineEnd character
        let content := content ++ breaks ++ line
        let (lineBreak, lexer) := lexer.takeBreak
        let (following, lexer) := lexer.takeBlockBreaks indent [] (lexer.rest.length + 1)
        if lexer.column = indent && lexer.current ≠ '\x00' then
          let joins :=
            isFolded && lineBreak = ['\n'] && startsDark &&
              lexer.current ≠ ' ' && lexer.current ≠ '\t'
          let content :=
            if joins then (if following = [] then content ++ [' '] else content)
            else content ++ lineBreak
          lexer.takeBlockLines isFolded indent content lineBreak following fuel
        else (content, lineBreak, following, lexer)
      else (content, lastBreak, breaks, lexer)

/-- Whether the breaks at the end of a block scalar are kept, where a mark says so. -/
def takeKeep (lexer : Lexer) : Option Bool × Lexer :=
  if lexer.current = '+' then (some true, lexer.advance)
  else if lexer.current = '-' then (some false, lexer.advance)
  else (none, lexer)

/-- The indentation of a block scalar, where a digit gives it; zero is refused. -/
def takeIncrement? (lexer : Lexer) : Option (Option Nat × Lexer) :=
  if lexer.current = '0' then none
  else if lexer.current.isDigit then some (some (lexer.current.toNat - 48), lexer.advance)
  else some (none, lexer)

/-- The marks after the start of a block scalar, in either order. -/
def takeBlockHeader? (lexer : Lexer) : Option (Option Bool × Option Nat × Lexer) := do
  let (keep, lexer) := lexer.takeKeep
  let (increment, lexer) ← lexer.takeIncrement?
  let (keep, lexer) :=
    if keep = none && increment ≠ none then lexer.takeKeep else (keep, lexer)
  if lexer.current = ' ' || isLineEnd lexer.current then some (keep, increment, lexer) else none

/-- A literal or folded scalar. -/
def blockScalar? (lexer : Lexer) (isFolded : Bool) : Option Lexer := do
  let lexer ← { lexer with keyAllowed := true }.dropKey?
  let (keep, increment, lexer) ← lexer.advance.takeBlockHeader?
  let lexer ← lexer.endOfLine?
  let fuel := lexer.rest.length + 1
  let least := max (lexer.indent + 1).toNat 1
  let (breaks, indent, lexer) :=
    match increment with
    | none =>
        let (breaks, largest, lexer) := lexer.takeBlockIndent [] 0 fuel
        (breaks, max least largest, lexer)
    | some increment =>
        let indent := least + increment - 1
        let (breaks, lexer) := lexer.takeBlockBreaks indent [] fuel
        (breaks, indent, lexer)
  let (content, lastBreak, following, lexer) :=
    lexer.takeBlockLines isFolded indent [] [] breaks fuel
  let content := if keep = some false then content else content ++ lastBreak
  let content := if keep = some true then content ++ following else content
  some (lexer.emit (.scalar content false))

/-! ## Quoted scalars -/

/-- The character that stands for an escape letter. -/
def escaped? (letter : Char) : Option Char :=
  let table : List (Char × Char) :=
    [('0', '\x00'), ('a', '\x07'), ('b', '\x08'), ('t', '\t'), ('\t', '\t'), ('n', '\n'),
      ('v', '\x0b'), ('f', '\x0c'), ('r', '\r'), ('e', '\x1b'), (' ', ' '), ('"', '"'),
      ('\\', '\\'), ('/', '/'), ('N', '\x85'), ('_', '\xa0'), ('L', '\u2028'), ('P', '\u2029')]
  table.lookup letter

/-- The number of hexadecimal digits after an escape letter. -/
def escapeWidth? (letter : Char) : Option Nat :=
  if letter = 'x' then some 2 else if letter = 'u' then some 4
  else if letter = 'U' then some 8 else none

/-- The line breaks and the blanks around them inside a quoted scalar. -/
def takeQuotedBreaks? (lexer : Lexer) (breaks : List Char) : Nat → Option (List Char × Lexer)
  | 0 => none
  | fuel + 1 =>
      if lexer.atSeparator then none
      else
        let lexer := lexer.skipWhile fun character => character = ' ' || character = '\t'
        if isBreak lexer.current then
          let (taken, lexer) := lexer.takeBreak
          lexer.takeQuotedBreaks? (breaks ++ taken) fuel
        else some (breaks, lexer)

/-- The number that hexadecimal digits at the front denote, exactly `width` of them. -/
def takeCode? (width : Nat) (characters : List Char) : Option Nat :=
  let digits := characters.take width
  match digits.mapM Text.hexDigit? with
  | some values =>
      if values.length = width then
        some (values.foldl (fun value digit => 16 * value + digit) 0)
      else none
  | none => none

/-- The second half of a pair, if an escape at the front gives one. -/
def lowHalf? : List Char → Option Nat
  | '\\' :: 'u' :: rest => (takeCode? 4 rest).filter Text.isLowHalf
  | _ => none

/-- The character of the code that an escape gives, and the lexer after its last digit. -/
def takeEscapedCode (lexer : Lexer) (width : Nat) : Except Fault (Char × Lexer) :=
  match takeCode? width lexer.rest with
  | none => .error .malformed
  | some code =>
      let after := lexer.advanceBy width
      if 0x80000000 ≤ code then .error .codeTooLarge
      else if 0x110000 ≤ code then .error .noCharacter
      else if Text.isHighHalf code then
        match lowHalf? after.rest with
        | some low => .ok (Text.pairChar code low, after.advanceBy 6)
        | none => .ok (Text.unitChar code, after)
      else .ok (Text.unitChar code, after)

/-- The characters of a quoted scalar up to its closing quote, the last one first in `done`. -/
def takeQuoted (lexer : Lexer) (quote : Char) (done : List Char) :
    Nat → Except Fault (List Char × Lexer)
  | 0 => .error .malformed
  | fuel + 1 =>
      let character := lexer.current
      let isDouble := quote = '"'
      if lexer.rest.isEmpty then .error .malformed
      else if character = quote then
        if !isDouble && lexer.peek 1 = quote then
          (lexer.advanceBy 2).takeQuoted quote (quote :: done) fuel
        else .ok (done.reverse, lexer.advance)
      else if isDouble && character = '\\' then
        let letter := lexer.peek 1
        let after := lexer.advanceBy 2
        if let some escaped := escaped? letter then
          after.takeQuoted quote (escaped :: done) fuel
        else if let some width := escapeWidth? letter then
          match after.takeEscapedCode width with
          | .ok (escaped, after) => after.takeQuoted quote (escaped :: done) fuel
          | .error fault => .error fault
        else if isBreak letter then
          match after.takeQuotedBreaks? [] fuel with
          | none => .error .malformed
          | some (breaks, lexer) => lexer.takeQuoted quote (breaks.reverse ++ done) fuel
        else .error .malformed
      else if character = ' ' || character = '\t' || isBreak character then
        let (blanks, lexer) :=
          lexer.takeWhile fun character => character = ' ' || character = '\t'
        if isBreak lexer.current then
          let (lineBreak, lexer) := lexer.takeBreak
          match lexer.takeQuotedBreaks? [] fuel with
          | none => .error .malformed
          | some (breaks, lexer) =>
              let folded :=
                if lineBreak ≠ ['\n'] then lineBreak ++ breaks
                else if breaks = [] then [' ']
                else breaks
              lexer.takeQuoted quote (folded.reverse ++ done) fuel
        else lexer.takeQuoted quote (blanks.reverse ++ done) fuel
      else lexer.advance.takeQuoted quote (character :: done) fuel

/-- A quoted scalar. -/
def quotedScalar (lexer : Lexer) : Except Fault Lexer := do
  let noted ← orMalformed lexer.noteKey?
  let inside := { noted.advance with keyAllowed := false }
  let (content, after) ← inside.takeQuoted lexer.current [] (noted.rest.length + 1)
  return after.emit (.scalar content false)

/-! ## Plain scalars -/

/-- The length of a plain run at the front: up to a gap, a colon that ends a key, or a flow mark. -/
def plainLength (inFlow : Bool) : List Char → Nat
  | [] => 0
  | character :: rest =>
      let next := rest.headD '\x00'
      if isGap character then 0
      else if character = ':' && (isGap next || (inFlow && isFlowMark next)) then 0
      else if inFlow && (character = '?' || isFlowMark character) then 0
      else plainLength inFlow rest + 1

/-- The line breaks and blanks inside a plain scalar; none where a document ends. -/
def takePlainBreaks? (lexer : Lexer) (breaks : List Char) : Nat → Option (List Char × Lexer)
  | 0 => some (breaks, lexer)
  | fuel + 1 =>
      if lexer.current = ' ' then lexer.advance.takePlainBreaks? breaks fuel
      else if isBreak lexer.current then
        let (taken, lexer) := lexer.takeBreak
        if lexer.atSeparator then none
        else lexer.takePlainBreaks? (breaks ++ taken) fuel
      else some (breaks, lexer)

/--
The blanks and line breaks after a run of a plain scalar as they count in it,
and the lexer after them.  Without any the scalar ends.
-/
def takePlainSpaces (lexer : Lexer) : List Char × Lexer :=
  let (blanks, lexer) := lexer.takeWhile (· = ' ')
  if isBreak lexer.current then
    let (lineBreak, lexer) := lexer.takeBreak
    let lexer := { lexer with keyAllowed := true }
    if lexer.atSeparator then ([], lexer)
    else
      match lexer.takePlainBreaks? [] (lexer.rest.length + 1) with
      | none => ([], lexer.skipWhile fun character => character = ' ' || isBreak character)
      | some (breaks, lexer) =>
          let folded :=
            if lineBreak ≠ ['\n'] then lineBreak ++ breaks
            else if breaks = [] then [' ']
            else breaks
          (folded, lexer)
  else (blanks, lexer)

/-- The runs of a plain scalar, with what stands between them. -/
def takePlain (lexer : Lexer) (indent : Int) (content spaces : List Char) :
    Nat → List Char × Lexer
  | 0 => (content, lexer)
  | fuel + 1 =>
      if lexer.current = '#' then (content, lexer)
      else
        let length := plainLength (lexer.flow ≠ 0) lexer.rest
        if length = 0 then (content, lexer)
        else
          let content := content ++ spaces ++ lexer.rest.take length
          let lexer := { lexer.advanceBy length with keyAllowed := false }
          let (spaces, lexer) := lexer.takePlainSpaces
          if spaces = [] || lexer.current = '#' ||
              (lexer.flow = 0 && (lexer.column : Int) < indent) then
            (content, lexer)
          else lexer.takePlain indent content spaces fuel

/-- A plain scalar. -/
def plainScalar? (lexer : Lexer) : Option Lexer := do
  let lexer ← lexer.noteKey?
  let (content, lexer) :=
    { lexer with keyAllowed := false }.takePlain (lexer.indent + 1) [] [] (lexer.rest.length + 1)
  some (lexer.emit (.scalar content true))

end Lexer
end Yaml
end RowFilter
