import Mathlib.Data.List.Infix
import RowFilter.Proofs.Query.Rules
import RowFilter.Query.Tree

/-!
# What patterns match

`matchesPattern` is matching as SQL has it: `%` stands for any characters, `_`
for any one, and the character after a backslash for itself.  The escaped form
of a text matches that text alone, so a pattern of containment matches exactly
the texts that contain the given one in upper case.

`Matches` has a rule for each of these cases, and the rules give what
`matchesPattern` computes.  The escapes of a pattern of containment are the
marks of its text, so each of them is complete.
-/

namespace RowFilter

/-- Whether there is a first character that is accepted, with accepted characters after it. -/
def oneThen (accepts : Char → Bool) (acceptsRest : List Char → Bool) : List Char → Bool
  | [] => false
  | character :: rest => accepts character && acceptsRest rest

/-- Whether characters match a pattern; nothing matches a pattern that ends inside an escape. -/
def matchesPattern : List Char → List Char → Bool
  | [], subject => subject.isEmpty
  | ['\\'], _ => false
  | '\\' :: literal :: pattern, subject =>
      oneThen (fun character => character == literal) (matchesPattern pattern) subject
  | '%' :: pattern, subject => subject.tails.any (matchesPattern pattern)
  | '_' :: pattern, subject => oneThen (fun _ => true) (matchesPattern pattern) subject
  | literal :: pattern, subject =>
      oneThen (fun character => character == literal) (matchesPattern pattern) subject

theorem oneThen_eq_iff
    {literal : Char} {acceptsRest : List Char → Bool} {subject : List Char} :
    oneThen (fun character => character == literal) acceptsRest subject = true ↔
      ∃ rest, subject = literal :: rest ∧ acceptsRest rest = true := by
  cases subject with
  | nil => simp [oneThen]
  | cons character rest => simp [oneThen, and_assoc]

/-- A percent sign matches any text, so what comes after it matches some end of the subject. -/
theorem matchesPattern_any_iff {pattern subject : List Char} :
    matchesPattern ('%' :: pattern) subject = true ↔
      ∃ rest, rest <:+ subject ∧ matchesPattern pattern rest = true := by
  rw [matchesPattern, List.any_eq_true]
  simp only [List.mem_tails]

/-- An escaped character matches itself alone. -/
theorem matchesPattern_escapeChar_iff {character : Char} {pattern subject : List Char} :
    matchesPattern (escapeChar character ++ pattern) subject = true ↔
      ∃ rest, subject = character :: rest ∧ matchesPattern pattern rest = true := by
  rw [← oneThen_eq_iff, escapeChar]
  split
  · rw [List.cons_append, List.singleton_append, matchesPattern]
  · next unmarked =>
      rw [List.singleton_append, matchesPattern] <;> intros <;> subst character <;>
        exact unmarked (by decide)

/-- An escaped text in a pattern matches the text alone. -/
theorem matchesPattern_escapeChars_iff {content pattern subject : List Char} :
    matchesPattern (escapeChars content ++ pattern) subject = true ↔
      ∃ rest, subject = content ++ rest ∧ matchesPattern pattern rest = true := by
  induction content generalizing subject with
  | nil => simp [escapeChars]
  | cons character content inductionHypothesis =>
      rw [escapeChars, List.flatMap_cons, List.append_assoc, matchesPattern_escapeChar_iff]
      constructor
      · rintro ⟨middle, rfl, matched⟩
        obtain ⟨rest, rfl, matchedRest⟩ := inductionHypothesis.1 matched
        exact ⟨rest, rfl, matchedRest⟩
      · rintro ⟨rest, rfl, matched⟩
        exact ⟨content ++ rest, rfl, inductionHypothesis.2 ⟨rest, rfl, matched⟩⟩

theorem matchesPattern_any_end (subject : List Char) :
    matchesPattern ['%'] subject = true :=
  matchesPattern_any_iff.2 ⟨[], List.nil_suffix, rfl⟩

/-- A pattern of containment matches what contains the text in upper case. -/
theorem matchesPattern_containsPattern_iff {text : String} {subject : List Char} :
    matchesPattern (containsPattern text).toList subject = true ↔
      Text.upperChars text.toList <:+: subject := by
  rw [containsPattern, String.toList_ofList, List.cons_append, matchesPattern_any_iff]
  constructor
  · rintro ⟨rest, ⟨before, rfl⟩, matched⟩
    obtain ⟨after, rfl, -⟩ := matchesPattern_escapeChars_iff.1 matched
    exact ⟨before, after, List.append_assoc _ _ _⟩
  · rintro ⟨before, after, rfl⟩
    rw [List.append_assoc]
    exact ⟨_, List.suffix_append _ _,
      matchesPattern_escapeChars_iff.2 ⟨after, rfl, matchesPattern_any_end after⟩⟩

/-- The percent sign of the text is taken literally. -/
example :
    matchesPattern (containsPattern "5%").toList "UP 5% NOW".toList = true ∧
      matchesPattern (containsPattern "5%").toList "UP 50 NOW".toList = false := by
  decide

/-! ## Escaping by replacement -/

/-- A backslash is put before each occurrence of a mark. -/
def replaceMark (mark : Char) (characters : List Char) : List Char :=
  characters.flatMap fun character =>
    if character = mark then ['\\', character] else [character]

/--
Marks can be escaped one after another.  The backslash comes first: it would
escape the backslashes of the other marks after them.
-/
theorem escapeChars_eq_replaceMark (characters : List Char) :
    escapeChars characters =
      replaceMark '_' (replaceMark '%' (replaceMark '\\' characters)) := by
  rw [replaceMark, replaceMark, replaceMark, List.flatMap_assoc, List.flatMap_assoc, escapeChars]
  refine List.flatMap_congr fun character _ => ?_
  by_cases backslash : character = '\\'
  · subst backslash
    rfl
  by_cases percent : character = '%'
  · subst percent
    rfl
  by_cases underscore : character = '_'
  · subst underscore
    rfl
  · simp [escapeChar, isPatternMark, backslash, percent, underscore]

/-! ## The escapes of a pattern -/

/-- What follows each backslash that begins an escape, with nothing after one that ends it all. -/
def escapes : List Char → List (Option Char)
  | [] => []
  | ['\\'] => [none]
  | '\\' :: literal :: pattern => some literal :: escapes pattern
  | _ :: pattern => escapes pattern

theorem escapes_cons_of_ne {character : Char} (ne_backslash : character ≠ '\\')
    (pattern : List Char) : escapes (character :: pattern) = escapes pattern := by
  rw [escapes] <;> intros <;> contradiction

theorem escapes_escapeChar (character : Char) (pattern : List Char) :
    escapes (escapeChar character ++ pattern) =
      ([character].filter isPatternMark).map some ++ escapes pattern := by
  rw [escapeChar]
  split
  · next marked => simp [marked, escapes]
  · next unmarked =>
      have ne_backslash : character ≠ '\\' := by
        rintro rfl
        exact unmarked (by decide)
      simp [unmarked, escapes_cons_of_ne ne_backslash]

theorem escapes_escapeChars (content pattern : List Char) :
    escapes (escapeChars content ++ pattern) =
      (content.filter isPatternMark).map some ++ escapes pattern := by
  induction content with
  | nil => rfl
  | cons character content inductionHypothesis =>
      rw [escapeChars, List.flatMap_cons, List.append_assoc, escapes_escapeChar, ← escapeChars,
        inductionHypothesis, ← List.append_assoc, ← List.map_append, ← List.filter_append,
        List.singleton_append]

/-- The escapes in a pattern of containment are the marks of its text, in order. -/
theorem escapes_containsPattern (text : String) :
    escapes (containsPattern text).toList =
      ((Text.upperChars text.toList).filter isPatternMark).map some := by
  rw [containsPattern, String.toList_ofList, List.cons_append, escapes_cons_of_ne (by decide),
    escapes_escapeChars, escapes_cons_of_ne (by decide), escapes, List.append_nil]

/-! ## The rules of matching -/

/-- Characters match a pattern, with one rule for each way in which a pattern begins. -/
inductive Matches : List Char → List Char → Prop where
  /-- Nothing is left to match. -/
  | done : Matches [] []
  /-- The character after a backslash matches itself. -/
  | escaped (literal : Char) {pattern subject : List Char} (rest : Matches pattern subject) :
      Matches ('\\' :: literal :: pattern) (literal :: subject)
  /-- A percent sign matches any characters. -/
  | anyText (skipped : List Char) {pattern subject : List Char} (rest : Matches pattern subject) :
      Matches ('%' :: pattern) (skipped ++ subject)
  /-- An underscore matches any one character. -/
  | anyChar (character : Char) {pattern subject : List Char} (rest : Matches pattern subject) :
      Matches ('_' :: pattern) (character :: subject)
  /-- Any other character matches itself. -/
  | plain {character : Char} (unmarked : character ∉ ['\\', '%', '_'])
      {pattern subject : List Char} (rest : Matches pattern subject) :
      Matches (character :: pattern) (character :: subject)

/-- A character after a backslash matches itself alone. -/
theorem matchesPattern_escaped_iff {literal : Char} {pattern subject : List Char} :
    matchesPattern ('\\' :: literal :: pattern) subject = true ↔
      ∃ rest, subject = literal :: rest ∧ matchesPattern pattern rest = true := by
  rw [matchesPattern, oneThen_eq_iff]

/-- An underscore matches any one character. -/
theorem matchesPattern_anyChar_iff {pattern subject : List Char} :
    matchesPattern ('_' :: pattern) subject = true ↔
      ∃ character rest, subject = character :: rest ∧ matchesPattern pattern rest = true := by
  cases subject with
  | nil => simp [matchesPattern, oneThen]
  | cons character rest => simp [matchesPattern, oneThen]

/-- A character that is no mark matches itself alone. -/
theorem matchesPattern_plain_iff {character : Char} (unmarked : character ∉ ['\\', '%', '_'])
    {pattern subject : List Char} :
    matchesPattern (character :: pattern) subject = true ↔
      ∃ rest, subject = character :: rest ∧ matchesPattern pattern rest = true := by
  rw [← oneThen_eq_iff, matchesPattern] <;> intros <;> subst character <;>
    exact absurd (by decide) unmarked

/-- The matcher follows the rules. -/
theorem Matches.of_matchesPattern {pattern subject : List Char}
    (matched : matchesPattern pattern subject = true) : Matches pattern subject := by
  -- The induction reads a pattern as `escapes` does: an escape takes two of its characters.
  induction pattern using escapes.induct generalizing subject with
  | case1 =>
      rw [matchesPattern, List.isEmpty_iff] at matched
      subst subject
      exact .done
  | case2 => simp [matchesPattern] at matched
  | case3 literal pattern inductionHypothesis =>
      obtain ⟨rest, rfl, matchedRest⟩ := matchesPattern_escaped_iff.1 matched
      exact .escaped literal (inductionHypothesis matchedRest)
  | case4 character pattern not_end not_escape inductionHypothesis =>
      by_cases percent : character = '%'
      · subst percent
        obtain ⟨rest, ⟨skipped, rfl⟩, matchedRest⟩ := matchesPattern_any_iff.1 matched
        exact .anyText skipped (inductionHypothesis matchedRest)
      by_cases underscore : character = '_'
      · subst underscore
        obtain ⟨first, rest, rfl, matchedRest⟩ := matchesPattern_anyChar_iff.1 matched
        exact .anyChar first (inductionHypothesis matchedRest)
      · have ne_backslash : character ≠ '\\' := by
          intro backslash
          cases pattern with
          | nil => exact not_end backslash rfl
          | cons literal pattern => exact not_escape literal pattern backslash rfl
        have unmarked : character ∉ ['\\', '%', '_'] := by
          simp [ne_backslash, percent, underscore]
        obtain ⟨rest, rfl, matchedRest⟩ := (matchesPattern_plain_iff unmarked).1 matched
        exact .plain unmarked (inductionHypothesis matchedRest)

/-- The matcher finds whatever follows from the rules. -/
theorem Matches.matchesPattern_eq_true {pattern subject : List Char}
    (matched : Matches pattern subject) : matchesPattern pattern subject = true := by
  induction matched with
  | done => rfl
  | escaped literal _ inductionHypothesis =>
      exact matchesPattern_escaped_iff.2 ⟨_, rfl, inductionHypothesis⟩
  | anyText skipped _ inductionHypothesis =>
      exact matchesPattern_any_iff.2 ⟨_, List.suffix_append _ _, inductionHypothesis⟩
  | anyChar character _ inductionHypothesis =>
      exact matchesPattern_anyChar_iff.2 ⟨character, _, rfl, inductionHypothesis⟩
  | plain unmarked _ inductionHypothesis =>
      exact (matchesPattern_plain_iff unmarked).2 ⟨_, rfl, inductionHypothesis⟩

/-- The rules give what is computed. -/
theorem matches_iff_matchesPattern {pattern subject : List Char} :
    Matches pattern subject ↔ matchesPattern pattern subject = true :=
  ⟨Matches.matchesPattern_eq_true, Matches.of_matchesPattern⟩

/-! ## Containment -/

/--
A test or a search of containment is a match with the pattern of its text.  What
matches contains the text in upper case, and the other way round.  Each
backslash that begins an escape stands before a mark, so none ends the pattern.
-/
theorem contains_means_containment {Expression Predicate : Type}
    (backend : Backend Expression Predicate) (field : String) (kind : Kind)
    (expression : Expression) (text : String) :
    (∀ asked ∈ [Test.contains, Test.search],
      compileTest backend field kind asked (.text text) expression =
        .ok (backend.like expression (containsPattern text))) ∧
    (∀ subject : String,
      Matches (containsPattern text).toList subject.toList ↔
        (Text.upper text).toList <:+: subject.toList) ∧
    escapes (containsPattern text).toList ⊆ ['\\', '%', '_'].map some := by
  refine ⟨?_, ?_, ?_⟩
  · intro asked asksText
    refine (compileTest_eq_ok_iff field kind).2 (.containsText ?_)
    simpa using asksText
  · intro subject
    rw [matches_iff_matchesPattern, matchesPattern_containsPattern_iff, Text.upper,
      String.toList_ofList]
  · rw [escapes_containsPattern]
    refine List.map_subset some fun mark member => ?_
    simpa [isPatternMark, or_assoc] using (List.mem_filter.1 member).2

/-- Each mark of the text is escaped, in order. -/
example : escapes (containsPattern "5%\\a_").toList = [some '%', some '\\', some '_'] := by
  decide

/-- A text of all three marks is escaped mark by mark, and is found inside a longer text. -/
theorem contains_means_containment_marks :
    Test.search ∈ [Test.contains, Test.search] ∧
    compileTest Tree.backend "note" .text .search (.text "5%\\a_")
        { name := "note", spec := { type := .text } } =
      .ok (.like "note" "%5\\%\\\\A\\_%") ∧
    Matches (containsPattern "5%\\a_").toList "UP 5%\\A_ NOW".toList ∧
    ¬Matches (containsPattern "5%\\a_").toList "UP 50\\A_ NOW".toList := by
  obtain ⟨compiles, matched, -⟩ :=
    contains_means_containment Tree.backend "note" .text
      { name := "note", spec := { type := .text } } "5%\\a_"
  have asksText : Test.search ∈ [Test.contains, Test.search] := by simp
  refine ⟨asksText, compiles .search asksText, (matched "UP 5%\\A_ NOW").2 (by decide), ?_⟩
  intro wrong
  exact absurd ((matched "UP 50\\A_ NOW").1 wrong) (by decide)

end RowFilter
