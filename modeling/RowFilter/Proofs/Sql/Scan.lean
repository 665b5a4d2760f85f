import RowFilter.Proofs.Text.Blank
import RowFilter.Proofs.Text.Split
import RowFilter.Sql.Identifier

/-!
# Identifiers are scanned back

A scanner takes what it reads from the start of a sequence of characters and
leaves the rest.  Identifiers, dotted names and select lists are scanned back
from their texts, whatever follows them that they could not go on with.
-/

namespace RowFilter
namespace Sql

/-! ## Identifiers -/

/-- The characters up to a closing quote, doubled quotes undone, and those after it. -/
def takeQuoted : List Char → Option (List Char × List Char)
  | [] => none
  | '"' :: '"' :: rest => (takeQuoted rest).map fun (inner, after) => ('"' :: inner, after)
  | '"' :: rest => some ([], rest)
  | character :: rest => (takeQuoted rest).map fun (inner, after) => (character :: inner, after)

/-- The identifier that characters start with, and the characters after it. -/
def scanIdentifier : List Char → Option (Identifier × List Char)
  | '"' :: rest =>
      (takeQuoted rest).map fun (inner, after) => (.quoted (String.ofList inner), after)
  | characters =>
      let word := characters.takeWhile isIdentifierPart
      if isUnquotedForm word then
        some (.bare (String.ofList word), characters.dropWhile isIdentifierPart)
      else none

/-- Characters with which no identifier goes on. -/
def EndsIdentifier (characters : List Char) : Prop :=
  ∀ next ∈ characters.head?, isIdentifierPart next = false ∧ next ≠ '"'

/-- No identifier goes on with a point. -/
theorem endsIdentifier_point (rest : List Char) : EndsIdentifier ('.' :: rest) := by
  rintro next ⟨⟩
  decide

/-- Nothing is left that an identifier could go on with. -/
theorem endsIdentifier_nil : EndsIdentifier [] :=
  fun _ absent => nomatch absent

/-- A bare name has the form of an unquoted identifier. -/
def Identifier.IsScannable : Identifier → Prop
  | bare name => isUnquotedForm name.toList = true
  | quoted _ => True

/-- A text with its quotes doubled is taken up to the quote that ends it. -/
theorem takeQuoted_quoted (inner : List Char) {after : List Char} (ends : EndsIdentifier after) :
    takeQuoted (inner.flatMap Identifier.quotedChar ++ '"' :: after) = some (inner, after) := by
  induction inner with
  | nil =>
      rw [List.flatMap_nil, List.nil_append]
      cases after with
      | nil => rfl
      | cons next after => rw [takeQuoted]; simpa using (ends next rfl).2
  | cons character inner inductionHypothesis =>
      rw [List.flatMap_cons, List.append_assoc, Identifier.quotedChar]
      split
      · next quote =>
          rw [List.cons_append, List.singleton_append, takeQuoted, inductionHypothesis, quote]
          rfl
      · next other =>
          rw [List.singleton_append, takeQuoted, inductionHypothesis]
          · rfl
          · exact fun _ same => absurd same other
          · exact other

/-- An unquoted word has characters of words only. -/
theorem all_isIdentifierPart {characters : List Char} (form : isUnquotedForm characters = true) :
    ∀ character ∈ characters, isIdentifierPart character = true := by
  cases characters with
  | nil => exact fun _ none => absurd none List.not_mem_nil
  | cons first rest =>
      rw [isUnquotedForm, Bool.and_eq_true, List.all_eq_true] at form
      rw [List.forall_mem_cons]
      exact ⟨by simp [isIdentifierPart, form.1], form.2⟩

theorem ne_quote_of_isIdentifierPart {character : Char} (part : isIdentifierPart character = true) :
    character ≠ '"' := by
  rintro rfl
  cases part

/-- A word is scanned up to the first character that is none of words. -/
theorem scanIdentifier_word
    {word : List Char} (form : isUnquotedForm word = true) {after : List Char}
    (ends : EndsIdentifier after) :
    scanIdentifier (word ++ after) = some (.bare (String.ofList word), after) := by
  have parts := all_isIdentifierPart form
  have taken : (word ++ after).takeWhile isIdentifierPart = word := by
    rw [List.takeWhile_append_of_pos parts]
    cases after with
    | nil => simp
    | cons next after => simp [(ends next rfl).1]
  have dropped : (word ++ after).dropWhile isIdentifierPart = after := by
    rw [List.dropWhile_append_of_pos parts]
    cases after with
    | nil => rfl
    | cons next after => simp [(ends next rfl).1]
  unfold scanIdentifier
  split
  · next rest equal =>
      cases word with
      | nil => cases form
      | cons first word =>
          have quote : first = '"' := (List.cons.inj equal).1
          exact absurd quote (ne_quote_of_isIdentifierPart (parts first List.mem_cons_self))
  · rw [taken, dropped]
    exact if_pos form

/-- An identifier is scanned back from its characters, before anything that ends one. -/
theorem scanIdentifier_chars
    {identifier : Identifier} (scannable : identifier.IsScannable) {after : List Char}
    (ends : EndsIdentifier after) :
    scanIdentifier (identifier.chars ++ after) = some (identifier, after) := by
  cases identifier with
  | bare name =>
      rw [Identifier.chars, scanIdentifier_word scannable ends, String.ofList_toList]
  | quoted name =>
      simp only [Identifier.chars, List.cons_append, List.append_assoc, List.nil_append,
        scanIdentifier, takeQuoted_quoted name.toList ends, Option.map_some, String.ofList_toList]

/-! ## Things that stand one after the other -/

/-- The things between separators at the start of characters, and the characters after them. -/
def scanSeparated {Item : Type} (separator : List Char)
    (scan : List Char → Option (Item × List Char)) (characters : List Char) :
    Option (List Item × List Char) :=
  match scan characters with
  | none => none
  | some (item, rest) =>
      match rest.dropPrefix? separator with
      | none => some ([item], rest)
      | some others =>
          -- Only an empty separator could leave a rest that is not shorter.
          if _shorter : others.length < characters.length then
            (scanSeparated separator scan others).map fun (items, after) => (item :: items, after)
          else none
termination_by characters.length

/--
Things are scanned back from their texts when each of them is, in front of a
separator and in front of what follows the last of them.
-/
theorem scanSeparated_intercalate
    {Item : Type} {separator : List Char} (nonempty : separator ≠ [])
    {scan : List Char → Option (Item × List Char)} {write : Item → List Char}
    {Ends : List Char → Prop} (inside : ∀ rest, Ends (separator ++ rest))
    {after : List Char} (ends : Ends after) (last : after.dropPrefix? separator = none)
    {items : List Item} (several : items ≠ [])
    (each : ∀ item ∈ items, ∀ rest, Ends rest → scan (write item ++ rest) = some (item, rest)) :
    scanSeparated separator scan (separator.intercalate (items.map write) ++ after) =
      some (items, after) := by
  induction items with
  | nil => exact absurd rfl several
  | cons item items inductionHypothesis =>
      rw [List.forall_mem_cons] at each
      cases items with
      | nil =>
          rw [scanSeparated, List.map_singleton, List.intercalate_singleton, each.1 after ends]
          simp only [last]
      | cons other items =>
          have others := inductionHypothesis (List.cons_ne_nil _ _) each.2
          generalize rest_eq :
            separator.intercalate ((other :: items).map write) ++ after = rest at others
          have whole :
              separator.intercalate ((item :: other :: items).map write) ++ after =
                write item ++ (separator ++ rest) := by
            rw [← rest_eq, List.map_cons, List.map_cons, List.intercalate_cons_cons,
              ← List.map_cons]
            simp only [List.append_assoc]
          have shorter : rest.length < (write item ++ (separator ++ rest)).length := by
            have := List.length_pos_iff.2 nonempty
            simp only [List.length_append]
            omega
          rw [whole, scanSeparated, each.1 _ (inside rest)]
          simp only [List.dropPrefix?_append_of_beq rest (beq_self_eq_true separator),
            dif_pos shorter, others, Option.map_some]

/-! ## Dotted names -/

/-- The identifiers of a dotted name. -/
def dottedIdentifiers (quote : Bool) (name : String) : List Identifier :=
  (dottedParts name).map (Identifier.ofName quote)

/-- The dotted name that characters start with, and the characters after it. -/
def scanDotted (characters : List Char) : Option (List Identifier × List Char) :=
  scanSeparated ['.'] scanIdentifier characters

theorem joinChars_eq_intercalate (separator : Char) (pieces : List (List Char)) :
    Text.joinChars separator pieces = [separator].intercalate pieces := by
  induction pieces with
  | nil => rfl
  | cons piece pieces inductionHypothesis =>
      cases pieces with
      | nil => rw [Text.joinChars, List.intercalate_singleton]
      | cons other pieces =>
          rw [Text.joinChars, inductionHypothesis, List.intercalate_cons_cons,
            List.append_assoc, List.singleton_append]
          exact List.cons_ne_nil _ _

/-- A dotted name is its identifiers with points between them. -/
theorem dottedText_toList (quote : Bool) (name : String) :
    (dottedText quote name).toList =
      ['.'].intercalate ((dottedIdentifiers quote name).map Identifier.chars) := by
  simp only [dottedText, Text.join, String.toList_ofList, joinChars_eq_intercalate,
    dottedIdentifiers, List.map_map, Function.comp_def, Identifier.text]

/-- The parts of a dotted name have no blanks at their ends. -/
theorem isStripped_of_mem_dottedParts {name part : String} (member : part ∈ dottedParts name) :
    Text.IsStripped part.toList := by
  obtain ⟨piece, -, rfl⟩ := List.mem_map.1 member
  exact Text.isStripped_strip piece

/-- A dotted name has at least one part, be it empty. -/
theorem dottedIdentifiers_ne_nil (quote : Bool) (name : String) :
    dottedIdentifiers quote name ≠ [] := by
  simp [dottedIdentifiers, dottedParts, Text.split_ne_nil]

/-- A name without blanks at its ends is written as an identifier that can be scanned. -/
theorem isScannable_ofName {name : String} (stripped : Text.IsStripped name.toList) (quote : Bool) :
    (Identifier.ofName quote name).IsScannable := by
  rw [Identifier.ofName]
  split
  · next bare =>
      rw [Bool.and_eq_true, isBareName, stripped.dropFinalNewline_eq_self] at bare
      exact bare.2
  · trivial

/-- Characters with which no dotted name goes on. -/
def EndsDotted (characters : List Char) : Prop :=
  EndsIdentifier characters ∧ characters.dropPrefix? ['.'] = none

/-- A dotted name is scanned back part by part. -/
theorem scanDotted_dottedText (quote : Bool) (name : String) {after : List Char}
    (ends : EndsDotted after) :
    scanDotted ((dottedText quote name).toList ++ after) =
      some (dottedIdentifiers quote name, after) := by
  rw [dottedText_toList, scanDotted]
  refine scanSeparated_intercalate (List.cons_ne_nil _ _) endsIdentifier_point ends.1 ends.2
    (dottedIdentifiers_ne_nil quote name) ?_
  intro identifier member rest endsIdentifier
  obtain ⟨part, present, rfl⟩ := List.mem_map.1 member
  exact scanIdentifier_chars (isScannable_ofName (isStripped_of_mem_dottedParts present) quote)
    endsIdentifier

/-! ## Select lists -/

/-- What is selected: all columns, or the column of a dotted name. -/
inductive SelectItem where
  /-- All columns. -/
  | all
  /-- The column with the given parts for its name. -/
  | column (parts : List Identifier)
deriving DecidableEq

namespace SelectItem

/-- The identifiers of an item. -/
def identifiers : SelectItem → List Identifier
  | all => []
  | column parts => parts

/-- The item for a column that is asked for. -/
def ofColumn (quote : Bool) (column : String) : SelectItem :=
  if Text.strip column = "*" then .all
  else .column (dottedIdentifiers quote (Text.strip column))

/-- The item that characters start with, and the characters after it. -/
def scan (characters : List Char) : Option (SelectItem × List Char) :=
  match characters with
  | '*' :: rest => some (.all, rest)
  | characters => (scanDotted characters).map fun (parts, after) => (.column parts, after)

end SelectItem

/-- The items for the columns that are asked for; without columns it is all of them. -/
def selectItems (quote : Bool) (columns : List String) : List SelectItem :=
  if columns.isEmpty then [.all] else columns.map (SelectItem.ofColumn quote)

/-- The items of the select list that characters start with, and the characters after it. -/
def scanSelectList (characters : List Char) : Option (List SelectItem × List Char) :=
  scanSeparated [',', ' '] SelectItem.scan characters

/-- Without a point a name is a dotted name of one part. -/
theorem dottedParts_of_notMem {name : String} (undotted : '.' ∉ name.toList) :
    dottedParts name = [Text.strip name] := by
  rw [dottedParts, Text.split, Text.splitChars_eq_singleton undotted]
  simp

/-- An asterisk stands for itself, and any other column is a dotted name. -/
theorem selectedText_eq (quote : Bool) (column : String) :
    selectedText quote column =
      if Text.strip column = "*" then "*" else dottedText quote (Text.strip column) := by
  simp only [selectedText]
  split
  · rfl
  · split
    · rfl
    · next undotted =>
        -- A name without points is a dotted name of one part, stripped already.
        have absent : '.' ∉ (Text.strip column).toList := by simpa using undotted
        rw [dottedText, dottedParts_of_notMem absent, Text.strip_strip, List.map_singleton,
          Text.join_singleton]

namespace SelectItem

/-- The characters of an item. -/
def chars : SelectItem → List Char
  | all => ['*']
  | column parts => ['.'].intercalate (parts.map Identifier.chars)

/-- A column is written as the item that it is selected as. -/
theorem selectedText_toList (quote : Bool) (column : String) :
    (selectedText quote column).toList = (ofColumn quote column).chars := by
  rw [selectedText_eq, ofColumn]
  split
  · rfl
  · exact dottedText_toList quote (Text.strip column)

/-- No dotted name starts with an asterisk. -/
theorem scanDotted_asterisk (rest : List Char) : scanDotted ('*' :: rest) = none := by
  have stops : scanIdentifier ('*' :: rest) = none := rfl
  rw [scanDotted, scanSeparated, stops]

/-- The item of a column is scanned back from its characters. -/
theorem scan_ofColumn (quote : Bool) (column : String) {after : List Char}
    (ends : EndsDotted after) :
    scan ((ofColumn quote column).chars ++ after) = some (ofColumn quote column, after) := by
  rw [← selectedText_toList, selectedText_eq, ofColumn]
  split
  · rfl
  · have scanned := scanDotted_dottedText quote (Text.strip column) ends
    unfold scan
    split
    -- An asterisk in front would leave nothing for the dotted name to be scanned from.
    · next rest equal =>
        rw [equal, scanDotted_asterisk] at scanned
        cases scanned
    · rw [scanned, Option.map_some]

end SelectItem

/-- A select list is its items with commas between them. -/
theorem selectList_toList (quote : Bool) (columns : List String) :
    (selectList quote columns).toList =
      [',', ' '].intercalate ((selectItems quote columns).map SelectItem.chars) := by
  rw [selectList, selectItems]
  split
  · rfl
  · rw [Text.commaSeparated, String.toList_intercalate, List.map_map, List.map_map]
    simp only [Function.comp_def, SelectItem.selectedText_toList]
    rfl

/-- A select list is scanned back as the items for its columns. -/
theorem scanSelectList_selectList (quote : Bool) (columns : List String) {after : List Char}
    (ends : EndsDotted after) (last : after.dropPrefix? [',', ' '] = none) :
    scanSelectList ((selectList quote columns).toList ++ after) =
      some (selectItems quote columns, after) := by
  rw [selectList_toList, scanSelectList]
  refine scanSeparated_intercalate (List.cons_ne_nil _ _) ?_ ends last ?_ ?_
  · intro rest
    exact ⟨by rintro next ⟨⟩; decide, rfl⟩
  · rw [selectItems]
    split
    · exact List.cons_ne_nil _ _
    · next several => simpa using several
  · intro item member rest endsDotted
    rw [selectItems] at member
    split at member
    · rw [List.mem_singleton.1 member]
      rfl
    · obtain ⟨column, -, rfl⟩ := List.mem_map.1 member
      exact SelectItem.scan_ofColumn quote column endsDotted

end Sql
end RowFilter
