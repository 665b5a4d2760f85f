import RowFilter.Text.Split
import RowFilter.Text.Quoted

/-!
# SQL identifiers

A name is written bare when it has the form of an unquoted identifier and
quoting is not asked for; any other name is written between double quotes,
with the quotes inside it doubled.
-/

namespace RowFilter
namespace Sql

/-- A character that an unquoted identifier may start with. -/
def isIdentifierStart (character : Char) : Bool :=
  character.isAlpha || character = '_'

/-- A character that an unquoted identifier may go on with. -/
def isIdentifierPart (character : Char) : Bool :=
  isIdentifierStart character || character.isDigit || character = '$'

/--
The form of an unquoted identifier: ASCII letters, digits, `_` and `$`, where
neither a digit nor `$` comes first.
-/
def isUnquotedForm : List Char → Bool
  | [] => false
  | first :: rest => isIdentifierStart first && rest.all isIdentifierPart

/-- A name that may stand without quotes; one line feed may follow it. -/
def isBareName (name : String) : Bool :=
  isUnquotedForm (Text.dropFinalNewline name.toList)

/-- A name together with the way in which it is written. -/
inductive Identifier where
  /-- The name as it is. -/
  | bare (name : String)
  /-- The name between double quotes. -/
  | quoted (name : String)
deriving DecidableEq, Repr

namespace Identifier

/-- The identifier of a name, quoted where it is asked for or needed. -/
def ofName (quote : Bool) (name : String) : Identifier :=
  if !quote && isBareName name then .bare name else .quoted name

/-- The name of an identifier. -/
def name : Identifier → String
  | bare name => name
  | quoted name => name

/-- One character between double quotes. -/
def quotedChar (character : Char) : List Char :=
  if character = '"' then ['"', '"'] else [character]

/-- The characters of an identifier. -/
def chars : Identifier → List Char
  | bare name => name.toList
  | quoted name => '"' :: name.toList.flatMap quotedChar ++ ['"']

/-- The text of an identifier. -/
def text (identifier : Identifier) : String :=
  String.ofList identifier.chars

theorem ofName_eq (quote : Bool) (name : String) :
    ofName quote name =
      if quote = false ∧ isBareName name = true then .bare name else .quoted name := by
  simp only [ofName, Bool.and_eq_true, Bool.not_eq_true']

@[simp] theorem name_ofName (quote : Bool) (name : String) : (ofName quote name).name = name := by
  rw [ofName]
  split <;> rfl

theorem text_toList (identifier : Identifier) : identifier.text.toList = identifier.chars :=
  String.toList_ofList

end Identifier

/-- The names between the points of a dotted name, without the blanks around them. -/
def dottedParts (name : String) : List String :=
  (Text.split '.' name).map Text.strip

/-- The text of a dotted name, each of its parts an identifier of its own. -/
def dottedText (quote : Bool) (name : String) : String :=
  Text.join '.' ((dottedParts name).map fun part => (Identifier.ofName quote part).text)

/-- The text of a selected column: `*`, a dotted name or a name. -/
def selectedText (quote : Bool) (column : String) : String :=
  let stripped := Text.strip column
  if stripped = "*" then "*"
  else if stripped.toList.contains '.' then dottedText quote stripped
  else (Identifier.ofName quote stripped).text

/-- The select list of the given columns; without columns it is `*`. -/
def selectList (quote : Bool) (columns : List String) : String :=
  if columns.isEmpty then "*"
  else Text.commaSeparated (columns.map (selectedText quote))

end Sql
end RowFilter
