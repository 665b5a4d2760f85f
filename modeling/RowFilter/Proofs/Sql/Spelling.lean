import Mathlib.Data.List.Forall2
import RowFilter.Proofs.Sql.Scan

/-!
# Texts that spell names

A text spells a name as an identifier when it is the name, in the form of an
unquoted identifier, or the name between double quotes with its own quotes
doubled.  No text spells two names.  A dotted name is written as a text that
spells its parts, and a name without points as one that spells it, unless it is
written bare with a line feed at its end.
-/

namespace RowFilter
namespace Sql

/-! ## Doubled quotes -/

/-- The characters with each doubled quote undone; a quote that stands alone cannot be undone. -/
def undouble : List Char → Option (List Char)
  | [] => some []
  | '"' :: '"' :: rest => (undouble rest).map ('"' :: ·)
  | '"' :: _ => none
  | character :: rest => (undouble rest).map (character :: ·)

/-- A character that is no quote stands for itself. -/
theorem undouble_of_ne {character : Char} (other : character ≠ '"') (rest : List Char) :
    undouble (character :: rest) = (undouble rest).map (character :: ·) := by
  rw [undouble]
  · exact fun _ same => absurd same other
  · exact other

/-- Doubling the quotes is undone. -/
theorem undouble_flatMap_quotedChar (inner : List Char) :
    undouble (inner.flatMap Identifier.quotedChar) = some inner := by
  induction inner with
  | nil => rfl
  | cons character inner inductionHypothesis =>
      rw [List.flatMap_cons, Identifier.quotedChar]
      split
      · next quote =>
          rw [List.cons_append, List.singleton_append, undouble, inductionHypothesis, quote]
          rfl
      · next other =>
          rw [List.singleton_append, undouble_of_ne other, inductionHypothesis]
          rfl

/-- What can be undone has come about by doubling. -/
theorem undouble_eq_some_iff {written inner : List Char} :
    undouble written = some inner ↔ written = inner.flatMap Identifier.quotedChar := by
  constructor
  · intro undone
    fun_induction undouble written generalizing inner with
    | case1 =>
        cases undone
        rfl
    | case2 rest inductionHypothesis =>
        obtain ⟨others, rest_eq, rfl⟩ := Option.map_eq_some_iff.1 undone
        rw [inductionHypothesis rest_eq]
        rfl
    | case3 => cases undone
    | case4 character rest _ other inductionHypothesis =>
        obtain ⟨others, rest_eq, rfl⟩ := Option.map_eq_some_iff.1 undone
        rw [inductionHypothesis rest_eq, List.flatMap_cons, Identifier.quotedChar, if_neg other]
        rfl
  · rintro rfl
    exact undouble_flatMap_quotedChar inner

/-! ## One name -/

/-- A text spells a name as an identifier. -/
inductive Spells (text : List Char) (name : String) : Prop
  /-- The text is the name, which has the form of an unquoted identifier. -/
  | bare (same : text = name.toList) (form : isUnquotedForm name.toList = true)
  /-- The text stands between quotes, and undoing the doubled quotes in it gives the name. -/
  | quoted (written : List Char) (between : text = '"' :: (written ++ ['"']))
      (undone : undouble written = some name.toList)

/-- Texts that spell names are those of the identifiers that can be scanned. -/
theorem spells_iff {text : List Char} {name : String} :
    Spells text name ↔
      ∃ identifier : Identifier, identifier.IsScannable ∧ identifier.chars = text ∧
        identifier.name = name := by
  constructor
  · rintro (⟨same, form⟩ | ⟨written, between, undone⟩)
    · exact ⟨.bare name, form, same.symm, rfl⟩
    · rw [undouble_eq_some_iff.1 undone] at between
      exact ⟨.quoted name, trivial, between.symm, rfl⟩
  · rintro ⟨identifier, scannable, rfl, rfl⟩
    cases identifier with
    | bare name => exact .bare rfl scannable
    | quoted name => exact .quoted _ rfl (undouble_flatMap_quotedChar name.toList)

/-- An identifier that stands alone is scanned back. -/
theorem scanIdentifier_chars_eq {identifier : Identifier} (scannable : identifier.IsScannable) :
    scanIdentifier identifier.chars = some (identifier, []) := by
  have scanned := scanIdentifier_chars scannable endsIdentifier_nil
  rwa [List.append_nil] at scanned

/-- A text spells one name at most. -/
theorem Spells.unique {text : List Char} {name other : String}
    (spells : Spells text name) (spells' : Spells text other) :
    name = other := by
  obtain ⟨identifier, scannable, rfl, rfl⟩ := spells_iff.1 spells
  obtain ⟨identifier', scannable', same, rfl⟩ := spells_iff.1 spells'
  have scanned := scanIdentifier_chars_eq scannable'
  rw [same, scanIdentifier_chars_eq scannable] at scanned
  cases scanned
  rfl

/-- A name in the form of an unquoted identifier, with a line feed after it. -/
def IsBareLine (name : String) : Prop :=
  ∃ front, name.toList = front ++ ['\n'] ∧ isUnquotedForm front = true

/-- No unquoted word ends in a line feed. -/
theorem isUnquotedForm_concat_newline (front : List Char) :
    ¬isUnquotedForm (front ++ ['\n']) = true := fun form =>
  absurd (all_isIdentifierPart form '\n' (by simp)) (by decide)

/-- A name is taken as bare when it is an unquoted word, or one with a line feed after it. -/
theorem isBareName_iff (name : String) :
    isBareName name = true ↔ isUnquotedForm name.toList = true ∨ IsBareLine name :=
  Text.dropFinalNewline_iff (isUnquotedForm · = true) isUnquotedForm_concat_newline name.toList

namespace Identifier

/-- An identifier cannot be scanned where its name ends with a line feed and is written bare. -/
theorem isScannable_ofName_iff (quote : Bool) (name : String) :
    (ofName quote name).IsScannable ↔ ¬(quote = false ∧ IsBareLine name) := by
  have line (isLine : IsBareLine name) : ¬isUnquotedForm name.toList = true := by
    obtain ⟨front, isName, -⟩ := isLine
    rw [isName]
    exact isUnquotedForm_concat_newline front
  rw [ofName_eq]
  split
  · next bare =>
      rw [isBareName_iff] at bare
      rw [and_iff_right bare.1]
      exact ⟨fun form isLine => line isLine form, bare.2.resolve_right⟩
  · next quoted =>
      rw [isBareName_iff] at quoted
      exact iff_of_true trivial fun ⟨asked, isLine⟩ => quoted ⟨asked, .inr isLine⟩

/-- Between quotes a name is longer than it is. -/
theorem length_lt_length_quoted (name : String) :
    name.toList.length < (quoted name).chars.length := by
  have longer (characters : List Char) :
      characters.length ≤ (characters.flatMap quotedChar).length := by
    induction characters with
    | nil => exact Nat.le_refl 0
    | cons character characters inductionHypothesis =>
        rw [List.flatMap_cons, List.length_append, List.length_cons, quotedChar]
        split <;> simp only [List.length_cons, List.length_nil] <;> omega
  have := longer name.toList
  simp only [chars, List.length_cons, List.length_append, List.length_nil]
  omega

/-- A name is written as it is exactly where it is written bare. -/
theorem text_ofName_eq_self_iff (quote : Bool) (name : String) :
    (ofName quote name).text = name ↔ quote = false ∧ isBareName name = true := by
  rw [ofName_eq]
  split
  · next bare => exact iff_of_true String.ofList_toList bare
  · next quoted =>
      refine iff_of_false (fun same => ?_) quoted
      have longer := length_lt_length_quoted name
      rw [← text_toList, same] at longer
      exact absurd longer (Nat.lt_irrefl _)

/-- Scanning gives the name back, or all of it but the line feed after a bare name. -/
theorem scanIdentifier_ofName (quote : Bool) (name : String) :
    ∃ identifier rest, scanIdentifier (ofName quote name).text.toList = some (identifier, rest) ∧
      identifier.name.toList ++ rest = name.toList ∧
      (rest = [] ↔ ¬(quote = false ∧ IsBareLine name)) := by
  rw [text_toList]
  by_cases line : quote = false ∧ IsBareLine name
  · obtain ⟨asked, front, isName, form⟩ := line
    have bare : ofName quote name = .bare name := by
      rw [ofName_eq, if_pos ⟨asked, (isBareName_iff name).2 (.inr ⟨front, isName, form⟩)⟩]
    refine ⟨.bare (String.ofList front), ['\n'], ?_, ?_, ?_⟩
    · rw [bare, chars, isName]
      refine scanIdentifier_word form ?_
      rintro next ⟨⟩
      decide
    · rw [isName]
      exact congrArg (· ++ ['\n']) String.toList_ofList
    · exact iff_of_false (List.cons_ne_nil _ _) (not_not_intro ⟨asked, front, isName, form⟩)
  · refine ⟨ofName quote name, [], ?_, ?_, iff_of_true rfl line⟩
    · exact scanIdentifier_chars_eq ((isScannable_ofName_iff quote name).2 line)
    · rw [name_ofName, List.append_nil]

/-- Different names are written differently. -/
theorem text_ofName_injective (quote : Bool) {name other : String}
    (same : (ofName quote name).text = (ofName quote other).text) :
    name = other := by
  obtain ⟨identifier, rest, scanned, whole, -⟩ := scanIdentifier_ofName quote name
  obtain ⟨identifier', rest', scanned', whole', -⟩ := scanIdentifier_ofName quote other
  rw [same, scanned'] at scanned
  cases scanned
  exact String.toList_injective (whole.symm.trans whole')

/-- The identifier of a name spells it, unless it is bare with a line feed at its end. -/
theorem spells_ofName_iff (quote : Bool) (name : String) :
    Spells (ofName quote name).text.toList name ↔ ¬(quote = false ∧ IsBareLine name) := by
  constructor
  · intro spells
    -- What spells a name is scanned to its end, and only a line leaves something.
    obtain ⟨identifier, scannable, same, -⟩ := spells_iff.1 spells
    obtain ⟨other, rest, scanned, -, rest_iff⟩ := scanIdentifier_ofName quote name
    rw [← same, scanIdentifier_chars_eq scannable] at scanned
    cases scanned
    exact rest_iff.1 rfl
  · intro plain
    refine spells_iff.2 ⟨ofName quote name, ?_, (text_toList _).symm, name_ofName quote name⟩
    exact (isScannable_ofName_iff quote name).2 plain

end Identifier

/--
The identifier of a name spells it, unless the name is written bare with a line
feed at its end.  It is the name itself where that has the form of an unquoted
identifier or is such a line.  What is scanned from it is the name, or the line
without its line feed, and different names have different identifiers.
-/
theorem identifier_spells_name_iff (quote : Bool) (name : String) :
    (Spells (Identifier.ofName quote name).text.toList name ↔
        ¬(quote = false ∧ IsBareLine name)) ∧
      ((Identifier.ofName quote name).text = name ↔
        quote = false ∧ (isUnquotedForm name.toList = true ∨ IsBareLine name)) ∧
      (∃ identifier rest,
        scanIdentifier (Identifier.ofName quote name).text.toList = some (identifier, rest) ∧
        identifier.name.toList ++ rest = name.toList ∧
        (rest = [] ↔ ¬(quote = false ∧ IsBareLine name))) ∧
      ∀ other, (Identifier.ofName quote other).text = (Identifier.ofName quote name).text ↔
        other = name := by
  refine ⟨Identifier.spells_ofName_iff quote name, ?_,
    Identifier.scanIdentifier_ofName quote name, fun other => ⟨?_, ?_⟩⟩
  · rw [← isBareName_iff]
    exact Identifier.text_ofName_eq_self_iff quote name
  · exact Identifier.text_ofName_injective quote
  · rintro rfl
    rfl

/-- Without quotes a line feed stays at the end of a name, and a shorter name is read from it. -/
theorem identifier_spells_name_not_line :
    (Identifier.ofName false "id\n").text = "id\n" ∧
      ¬Spells (Identifier.ofName false "id\n").text.toList "id\n" ∧
      scanIdentifier (Identifier.ofName false "id\n").text.toList = some (.bare "id", ['\n']) ∧
      scanIdentifier (Identifier.ofName false "id").text.toList = some (.bare "id", []) := by
  refine ⟨by decide, ?_, by decide, by decide⟩
  rw [Identifier.spells_ofName_iff, not_not]
  exact ⟨rfl, "id".toList, by decide, by decide⟩

/-! ## Dotted names -/

/-- A text spells names, one after the other with a point between neighbours. -/
def SpellsDotted (text : List Char) (names : List String) : Prop :=
  ∃ words, words ≠ [] ∧ List.Forall₂ Spells words names ∧ text = ['.'].intercalate words

/-- Words spell names when they are the characters of identifiers with these names. -/
theorem forall₂_spells_iff {words : List (List Char)} {names : List String} :
    List.Forall₂ Spells words names ↔
      ∃ identifiers : List Identifier, (∀ identifier ∈ identifiers, identifier.IsScannable) ∧
        identifiers.map Identifier.chars = words ∧ identifiers.map Identifier.name = names := by
  constructor
  · intro spelled
    induction spelled with
    | nil => exact ⟨[], by simp⟩
    | cons first _ inductionHypothesis =>
        obtain ⟨identifier, scannable, rfl, rfl⟩ := spells_iff.1 first
        obtain ⟨identifiers, others, rfl, rfl⟩ := inductionHypothesis
        exact ⟨identifier :: identifiers, List.forall_mem_cons.2 ⟨scannable, others⟩, rfl, rfl⟩
  · rintro ⟨identifiers, scannable, rfl, rfl⟩
    rw [List.forall₂_map_left_iff, List.forall₂_map_right_iff, List.forall₂_same]
    exact fun identifier member => spells_iff.2 ⟨identifier, scannable identifier member, rfl, rfl⟩

/-- Names that a text spells are those of its identifiers, which are scanned to its end. -/
theorem SpellsDotted.names_eq
    {text : List Char} {names : List String} (spells : SpellsDotted text names)
    {identifiers : List Identifier} (scanned : scanDotted text = some (identifiers, [])) :
    names = identifiers.map Identifier.name := by
  obtain ⟨_, nonempty, spelled, rfl⟩ := spells
  obtain ⟨others, scannable, rfl, rfl⟩ := forall₂_spells_iff.1 spelled
  have several : others ≠ [] := by simpa using nonempty
  have read : scanDotted (['.'].intercalate (others.map Identifier.chars) ++ []) =
      some (others, []) := by
    refine scanSeparated_intercalate (List.cons_ne_nil _ _) ?_ endsIdentifier_nil rfl several ?_
    · exact endsIdentifier_point
    · exact fun identifier member rest => scanIdentifier_chars (scannable identifier member)
  rw [List.append_nil, scanned] at read
  cases read
  rfl

/--
A dotted name is the pieces between its points.  The text that is written for it
is scanned to its end as one identifier for each piece, in their order, with the
name that is left of the piece without the blanks around it; these are the only
names that the text spells.
-/
theorem dottedText_spells_parts (quote : Bool) (name : String) :
    ∃ pieces, ArePieces '.' name pieces ∧
      (∃ identifiers, scanDotted (dottedText quote name).toList = some (identifiers, []) ∧
        identifiers.map Identifier.name = pieces.map Text.strip) ∧
      ∀ names, SpellsDotted (dottedText quote name).toList names ↔
        names = pieces.map Text.strip := by
  have scanned := @scanDotted_dottedText quote name [] ⟨endsIdentifier_nil, rfl⟩
  rw [List.append_nil] at scanned
  have names_eq : (dottedIdentifiers quote name).map Identifier.name = dottedParts name := by
    simp [dottedIdentifiers, Function.comp_def]
  refine ⟨Text.split '.' name, arePieces_iff.2 rfl, ⟨_, scanned, names_eq⟩, fun names => ⟨?_, ?_⟩⟩
  · intro spells
    exact (spells.names_eq scanned).trans names_eq
  · rintro rfl
    refine ⟨(dottedIdentifiers quote name).map Identifier.chars, ?_, ?_,
      dottedText_toList quote name⟩
    · simpa using dottedIdentifiers_ne_nil quote name
    · refine forall₂_spells_iff.2 ⟨dottedIdentifiers quote name, ?_, rfl, names_eq⟩
      rintro identifier member
      obtain ⟨part, present, rfl⟩ := List.mem_map.1 member
      exact isScannable_ofName (isStripped_of_mem_dottedParts present) quote

end Sql
end RowFilter
