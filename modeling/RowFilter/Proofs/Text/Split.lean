import RowFilter.Text.Split

/-!
# Splitting undoes joining

Pieces without the separator come back when what was joined is split, and the
pieces of any text are without the separator.
-/

namespace RowFilter
namespace Text

/-- Without the separator there is one piece. -/
theorem splitChars_eq_singleton
    {separator : Char} {characters : List Char} (absent : separator ∉ characters) :
    splitChars separator characters = [characters] := by
  induction characters with
  | nil => rfl
  | cons character rest inductionHypothesis =>
      rw [List.mem_cons, not_or] at absent
      rw [splitChars, if_neg (Ne.symm absent.1), inductionHypothesis absent.2]

/-- What stands before the first separator is the first piece. -/
theorem splitChars_append_separator
    {separator : Char} {piece : List Char} (absent : separator ∉ piece) (rest : List Char) :
    splitChars separator (piece ++ separator :: rest) = piece :: splitChars separator rest := by
  induction piece with
  | nil => rw [List.nil_append, splitChars, if_pos rfl]
  | cons character piece inductionHypothesis =>
      rw [List.mem_cons, not_or] at absent
      rw [List.cons_append, splitChars, if_neg (Ne.symm absent.1), inductionHypothesis absent.2]

/-- Pieces without the separator are split again as they were joined. -/
theorem splitChars_joinChars
    {separator : Char} {pieces : List (List Char)} (nonempty : pieces ≠ [])
    (absent : ∀ piece ∈ pieces, separator ∉ piece) :
    splitChars separator (joinChars separator pieces) = pieces := by
  induction pieces with
  | nil => exact absurd rfl nonempty
  | cons piece pieces inductionHypothesis =>
      rw [List.forall_mem_cons] at absent
      cases pieces with
      | nil => exact splitChars_eq_singleton absent.1
      | cons other pieces =>
          rw [joinChars, splitChars_append_separator absent.1,
            inductionHypothesis (by simp) absent.2]
          simp

/-- Texts without the separator are the pieces of what they are joined to. -/
theorem split_join
    {separator : Char} {texts : List String} (nonempty : texts ≠ [])
    (absent : ∀ text ∈ texts, separator ∉ text.toList) :
    split separator (join separator texts) = texts := by
  have clean : ∀ piece ∈ texts.map String.toList, separator ∉ piece := by
    intro piece member
    obtain ⟨text, present, rfl⟩ := List.mem_map.1 member
    exact absent text present
  rw [split, join, String.toList_ofList, splitChars_joinChars (by simpa using nonempty) clean,
    List.map_map]
  exact List.map_id'' (fun _ => String.ofList_toList) texts

/-- Only the last of joined texts is split once more. -/
theorem splitChars_joinChars_append
    {separator : Char} {pieces : List (List Char)}
    (absent : ∀ piece ∈ pieces, separator ∉ piece) (last : List Char) :
    splitChars separator (joinChars separator (pieces ++ [last])) =
      pieces ++ splitChars separator last := by
  induction pieces with
  | nil => rfl
  | cons piece pieces inductionHypothesis =>
      rw [List.forall_mem_cons] at absent
      rw [List.cons_append, joinChars, splitChars_append_separator absent.1,
        inductionHypothesis absent.2, List.cons_append]
      simp

/-- Only the last of the joined texts may hold the separator; it is split in turn. -/
theorem split_join_append
    {separator : Char} {texts : List String}
    (absent : ∀ text ∈ texts, separator ∉ text.toList) (last : String) :
    split separator (join separator (texts ++ [last])) = texts ++ split separator last := by
  have clean : ∀ piece ∈ texts.map String.toList, separator ∉ piece := by
    intro piece member
    obtain ⟨text, present, rfl⟩ := List.mem_map.1 member
    exact absent text present
  rw [split, join, String.toList_ofList, List.map_append, List.map_singleton,
    splitChars_joinChars_append clean, List.map_append, List.map_map, split]
  congr 1
  exact List.map_id'' (fun _ => String.ofList_toList) texts

/-- Behind the first piece every piece follows a separator. -/
theorem joinChars_cons (separator : Char) (first : List Char) (others : List (List Char)) :
    joinChars separator (first :: others) =
      first ++ others.flatMap fun piece => separator :: piece := by
  induction others generalizing first with
  | nil => rw [joinChars, List.flatMap_nil, List.append_nil]
  | cons second others inductionHypothesis =>
      rw [joinChars, inductionHypothesis, List.flatMap_cons, List.cons_append]
      exact List.cons_ne_nil second others

/-- Pieces that are joined at the end may be joined with all others at once. -/
theorem joinChars_append_singleton
    {separator : Char} {others : List (List Char)} (nonempty : others ≠ [])
    (pieces : List (List Char)) :
    joinChars separator (pieces ++ [joinChars separator others]) =
      joinChars separator (pieces ++ others) := by
  induction pieces with
  | nil => rfl
  | cons piece pieces inductionHypothesis =>
      rw [List.cons_append, List.cons_append, joinChars, joinChars, inductionHypothesis]
      · simp [nonempty]
      · simp

theorem join_singleton (separator : Char) (text : String) : join separator [text] = text :=
  String.ofList_toList

/-- The last of joined texts may itself be joined. -/
theorem join_append_singleton
    {separator : Char} {others : List String} (nonempty : others ≠ []) (texts : List String) :
    join separator (texts ++ [join separator others]) = join separator (texts ++ others) := by
  rw [join, join, join, List.map_append, List.map_singleton, String.toList_ofList,
    joinChars_append_singleton (by simpa using nonempty), List.map_append]

/-- Joining the pieces of a text gives the text. -/
theorem join_split (separator : Char) (text : String) :
    join separator (split separator text) = text := by
  have pieces : (split separator text).map String.toList = splitChars separator text.toList := by
    rw [split, List.map_map]
    exact List.map_id'' (fun _ => String.toList_ofList) _
  rw [join, pieces, joinChars_splitChars, String.ofList_toList]

/-- There is one piece more than there are separators. -/
theorem length_splitChars (separator : Char) (characters : List Char) :
    (splitChars separator characters).length = characters.count separator + 1 := by
  induction characters with
  | nil => rfl
  | cons character rest inductionHypothesis =>
      rw [splitChars, List.count_cons]
      split
      · next same => simp [same, inductionHypothesis]
      · next other =>
          split
          · next empty => exact absurd empty (splitChars_ne_nil separator rest)
          · next piece pieces split_eq =>
              rw [split_eq] at inductionHypothesis
              simpa [other] using inductionHypothesis

/-- There is one piece more than there are separators. -/
theorem length_split (separator : Char) (text : String) :
    (split separator text).length = text.toList.count separator + 1 := by
  rw [split, List.length_map, length_splitChars]

/-- A separator at the end is followed by an empty piece. -/
theorem splitChars_concat_separator (separator : Char) (characters : List Char) :
    splitChars separator (characters ++ [separator]) = splitChars separator characters ++ [[]] := by
  induction characters with
  | nil => simp [splitChars]
  | cons character rest inductionHypothesis =>
      rw [List.cons_append, splitChars, splitChars, inductionHypothesis]
      split
      · rfl
      · cases pieces : splitChars separator rest with
        | nil => exact absurd pieces (splitChars_ne_nil separator rest)
        | cons piece pieces => rfl

/-- A last character that is no separator ends the last piece. -/
theorem exists_splitChars_concat
    {separator character : Char} (other : character ≠ separator) (characters : List Char) :
    ∃ pieces last,
      splitChars separator (characters ++ [character]) = pieces ++ [last ++ [character]] := by
  induction characters with
  | nil => exact ⟨[], [], by simp [splitChars, other]⟩
  | cons first rest inductionHypothesis =>
      obtain ⟨pieces, last, split_eq⟩ := inductionHypothesis
      rw [List.cons_append, splitChars, split_eq]
      split
      · exact ⟨[] :: pieces, last, rfl⟩
      · cases pieces with
        | nil => exact ⟨[], first :: last, rfl⟩
        | cons piece pieces => exact ⟨(first :: piece) :: pieces, last, rfl⟩

/-- There is always a piece. -/
theorem split_ne_nil (separator : Char) (text : String) : split separator text ≠ [] := by
  rw [split, Ne, List.map_eq_nil_iff]
  exact splitChars_ne_nil separator text.toList

/-- A piece has the characters of the whole, without the separator. -/
theorem of_mem_splitChars
    {separator : Char} {characters piece : List Char}
    (member : piece ∈ splitChars separator characters) :
    separator ∉ piece ∧ piece ⊆ characters := by
  induction characters generalizing piece with
  | nil =>
      rw [List.mem_singleton.1 member]
      exact ⟨List.not_mem_nil, List.Subset.refl _⟩
  | cons character rest inductionHypothesis =>
      rw [splitChars] at member
      split at member
      · rcases List.mem_cons.1 member with rfl | member
        · exact ⟨List.not_mem_nil, List.nil_subset _⟩
        · obtain ⟨clean, subset⟩ := inductionHypothesis member
          exact ⟨clean, List.subset_cons_of_subset _ subset⟩
      · next different =>
          split at member
          · next empty => exact absurd empty (splitChars_ne_nil separator rest)
          · next first others pieces =>
              rw [pieces] at inductionHypothesis
              rcases List.mem_cons.1 member with rfl | member
              · obtain ⟨clean, subset⟩ := inductionHypothesis List.mem_cons_self
                refine ⟨?_, List.cons_subset_cons _ subset⟩
                rw [List.mem_cons, not_or]
                exact ⟨Ne.symm different, clean⟩
              · obtain ⟨clean, subset⟩ := inductionHypothesis (List.mem_cons_of_mem _ member)
                exact ⟨clean, List.subset_cons_of_subset _ subset⟩

/-- A piece has no separator, and no character that is not in the text. -/
theorem of_mem_split
    {separator : Char} {text piece : String} (member : piece ∈ split separator text) :
    separator ∉ piece.toList ∧ piece.toList ⊆ text.toList := by
  obtain ⟨characters, present, rfl⟩ := List.mem_map.1 member
  rw [String.toList_ofList]
  exact of_mem_splitChars present

/-- What is joined has the characters of its pieces and separators. -/
theorem mem_joinChars
    {separator character : Char} {pieces : List (List Char)}
    (member : character ∈ joinChars separator pieces) :
    character = separator ∨ ∃ piece ∈ pieces, character ∈ piece := by
  induction pieces with
  | nil => exact absurd member List.not_mem_nil
  | cons piece pieces inductionHypothesis =>
      cases pieces with
      | nil => exact .inr ⟨piece, List.mem_cons_self, member⟩
      | cons other pieces =>
          rw [joinChars, List.mem_append, List.mem_cons] at member
          · rcases member with here | same | later
            · exact .inr ⟨piece, List.mem_cons_self, here⟩
            · exact .inl same
            · rcases inductionHypothesis later with same | ⟨found, present, there⟩
              · exact .inl same
              · exact .inr ⟨found, List.mem_cons_of_mem _ present, there⟩
          · simp

/-- The characters of joined texts are theirs, besides the separator. -/
theorem mem_join
    {separator character : Char} {texts : List String}
    (member : character ∈ (join separator texts).toList) :
    character = separator ∨ ∃ text ∈ texts, character ∈ text.toList := by
  rw [join, String.toList_ofList] at member
  rcases mem_joinChars member with same | ⟨piece, present, here⟩
  · exact .inl same
  · obtain ⟨text, found, rfl⟩ := List.mem_map.1 present
    exact .inr ⟨text, found, here⟩

end Text

/-- Pieces without the separator that are joined to a text. -/
structure ArePieces (separator : Char) (text : String) (pieces : List String) : Prop where
  /-- There is a piece. -/
  nonempty : pieces ≠ []
  /-- No piece has the separator. -/
  free : ∀ piece ∈ pieces, separator ∉ piece.toList
  /-- With the separator between them they are the text. -/
  join_eq : Text.join separator pieces = text

/-- The pieces of a text are those that splitting gives. -/
theorem arePieces_iff {separator : Char} {text : String} {pieces : List String} :
    ArePieces separator text pieces ↔ Text.split separator text = pieces := by
  constructor
  · rintro ⟨nonempty, free, rfl⟩
    exact Text.split_join nonempty free
  · rintro rfl
    exact ⟨Text.split_ne_nil _ _, fun _ member => (Text.of_mem_split member).1,
      Text.join_split separator text⟩

end RowFilter
