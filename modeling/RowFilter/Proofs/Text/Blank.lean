import Mathlib.Data.List.DropRight
import RowFilter.Text.Split

/-!
# Stripped texts

Stripping takes only blanks away and leaves none at either end; a text without
blanks at its ends is left as it is.
-/

namespace RowFilter
namespace Text

/-- Neither the first nor the last character is blank. -/
def IsStripped (characters : List Char) : Prop :=
  (∀ first ∈ characters.head?, isBlank first = false) ∧
    ∀ last ∈ characters.getLast?, isBlank last = false

/-- Stripping leaves no blank at an end. -/
theorem isStripped_stripChars (characters : List Char) : IsStripped (stripChars characters) := by
  have stripped_eq : stripChars characters =
      (characters.dropWhile isBlank).rdropWhile isBlank := rfl
  rw [stripped_eq]
  constructor
  · intro first isFirst
    -- Nothing is dropped at the end before what the front begins with.
    obtain ⟨dropped, whole⟩ := List.rdropWhile_prefix isBlank (l := characters.dropWhile isBlank)
    have begins := List.head?_dropWhile_not isBlank characters
    rw [← whole, List.head?_append_of_ne_nil _ (by rintro empty; simp [empty] at isFirst),
      Option.mem_def.1 isFirst] at begins
    exact begins
  · intro last isLast
    obtain ⟨nonempty, rfl⟩ := List.mem_getLast?_eq_getLast isLast
    exact Bool.not_eq_true _ ▸ List.rdropWhile_last_not isBlank _ nonempty

/-- Where no end is a blank, nothing is stripped. -/
theorem stripChars_of_isStripped
    {characters : List Char} (stripped : IsStripped characters) :
    stripChars characters = characters := by
  have front : characters.dropWhile isBlank = characters := by
    rw [List.dropWhile_eq_self_iff]
    intro nonempty
    rw [stripped.1 _ (by simp [List.head?_eq_getElem?])]
    exact Bool.false_ne_true
  have back : characters.rdropWhile isBlank = characters := by
    rw [List.rdropWhile_eq_self_iff]
    intro nonempty
    rw [stripped.2 _ (List.getLast_mem_getLast? nonempty)]
    exact Bool.false_ne_true
  calc stripChars characters
      = (characters.dropWhile isBlank).rdropWhile isBlank := rfl
    _ = characters := by rw [front, back]

/-- A stripped text has no blank at an end. -/
theorem isStripped_strip (text : String) : IsStripped (strip text).toList := by
  rw [strip, String.toList_ofList]
  exact isStripped_stripChars text.toList

/-- A text is stripped once for all. -/
theorem strip_strip (text : String) : strip (strip text) = strip text := by
  rw [strip, stripChars_of_isStripped (isStripped_strip text), String.ofList_toList]

/-- Stripping takes blanks away and nothing else. -/
theorem mem_strip_iff {text : String} {character : Char} (notBlank : isBlank character = false) :
    character ∈ (strip text).toList ↔ character ∈ text.toList := by
  have kept (characters : List Char) :
      character ∈ characters.dropWhile isBlank ↔ character ∈ characters := by
    refine ⟨fun member => (List.dropWhile_suffix isBlank).mem member, fun member => ?_⟩
    rw [← @List.takeWhile_append_dropWhile _ isBlank characters, List.mem_append] at member
    refine member.resolve_left fun dropped => ?_
    rw [List.mem_takeWhile_imp dropped] at notBlank
    cases notBlank
  rw [strip, String.toList_ofList, stripChars, List.mem_reverse, kept, List.mem_reverse, kept]

/-- Without a line feed at the end nothing is dropped. -/
theorem dropFinalNewline_of_getLast?_ne
    {characters : List Char} (other : characters.getLast? ≠ some '\n') :
    dropFinalNewline characters = characters := by
  induction characters with
  | nil => rfl
  | cons character rest inductionHypothesis =>
      cases rest with
      | nil =>
          unfold dropFinalNewline
          split
          · next equal => cases equal
          · next equal =>
              cases equal
              exact absurd rfl other
          · next equal =>
              cases equal
              rfl
      | cons next rest =>
          rw [List.getLast?_cons_cons] at other
          rw [dropFinalNewline, inductionHypothesis other]
          simp

/-- A line feed at the end is dropped. -/
theorem dropFinalNewline_concat (front : List Char) :
    dropFinalNewline (front ++ ['\n']) = front := by
  induction front with
  | nil => rfl
  | cons character front inductionHypothesis =>
      rw [List.cons_append, dropFinalNewline, inductionHypothesis]
      simp

/--
For a property that never holds before a final line feed: dropping the line feed
adds the texts that have the property and one line feed after them.
-/
theorem dropFinalNewline_iff
    (holds : List Char → Prop) (never : ∀ front, ¬holds (front ++ ['\n']))
    (characters : List Char) :
    holds (dropFinalNewline characters) ↔
      holds characters ∨ ∃ front, characters = front ++ ['\n'] ∧ holds front := by
  by_cases final : characters.getLast? = some '\n'
  · obtain ⟨front, rfl⟩ := List.getLast?_eq_some_iff.1 final
    rw [dropFinalNewline_concat, or_iff_right (never front)]
    simp
  · rw [dropFinalNewline_of_getLast?_ne final, or_iff_left]
    rintro ⟨front, rfl, -⟩
    exact final List.getLast?_concat

/-- There is no final line feed to be dropped from a stripped text. -/
theorem IsStripped.dropFinalNewline_eq_self
    {characters : List Char} (stripped : IsStripped characters) :
    dropFinalNewline characters = characters := by
  refine dropFinalNewline_of_getLast?_ne fun final => ?_
  exact absurd (stripped.2 _ final) (by decide)

end Text
end RowFilter
