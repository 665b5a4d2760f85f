import RowFilter.Text.Case
import RowFilter.Text.PrintableRanges

/-!
# Quoted texts

A text is shown between single quotes, or between double quotes when it holds
a single quote and no double one.  Backslash, the chosen quote and the line
characters are escaped with a backslash; every other character that is not
printable is written by its code point.
-/

namespace RowFilter
namespace Text

/-- A character that is shown as it is. -/
def isPrintable (character : Char) : Bool :=
  let code := character.toNat
  if code < 128 then 32 ≤ code && code < 127 else inRanges printableRanges code

/-- The hexadecimal digits of a number in lower case, filled up with zeros. -/
def hexDigits (width value : Nat) : List Char :=
  let digits := Nat.toDigits 16 value
  List.replicate (width - digits.length) '0' ++ digits

/-- A character by its code point, in the shortest of the three forms that holds it. -/
def codeEscape (character : Char) : List Char :=
  let code := character.toNat
  if code < 0x100 then '\\' :: 'x' :: hexDigits 2 code
  else if code < 0x10000 then '\\' :: 'u' :: hexDigits 4 code
  else '\\' :: 'U' :: hexDigits 8 code

/-- One character inside the given quotes. -/
def quotedChar (quote character : Char) : List Char :=
  if character = quote || character = '\\' then ['\\', character]
  else if character = '\n' then ['\\', 'n']
  else if character = '\r' then ['\\', 'r']
  else if character = '\t' then ['\\', 't']
  else if isPrintable character then [character]
  else codeEscape character

/-- The quote for a text: single, unless the text has a single quote and no double one. -/
def quoteFor (characters : List Char) : Char :=
  if characters.contains '\x27' && !characters.contains '"' then '"' else '\x27'

/-- The text between quotes. -/
def quoted (text : String) : String :=
  let quote := quoteFor text.toList
  String.ofList (quote :: text.toList.flatMap (quotedChar quote) ++ [quote])

/-- Texts with a comma between neighbours. -/
def commaSeparated (texts : List String) : String :=
  String.intercalate ", " texts

/-- A list shown in square brackets. -/
def bracketed (texts : List String) : String :=
  "[" ++ commaSeparated texts ++ "]"

end Text
end RowFilter
