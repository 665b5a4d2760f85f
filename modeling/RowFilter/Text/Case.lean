import RowFilter.Text.CaseRuns

/-!
# Upper and lower case

`upper` and `lower` are the full case mappings of Unicode: one character may
become several, and a capital sigma that ends a word becomes a final sigma.
ASCII characters never reach the tables.
-/

namespace RowFilter
namespace Text

/-- Whether a code point lies in one of the given ranges. -/
def inRanges (ranges : List (Nat × Nat)) (code : Nat) : Bool :=
  ranges.any fun range => range.1 ≤ code && code ≤ range.2

/-- The code point at the distance `shift` from `code`. -/
def shiftedChar (code : Nat) (shift : Int) : Char :=
  Char.ofNat (Int.toNat (code + shift))

/-- The image of a non-ASCII character under a table of expansions and runs. -/
def mappedChar
    (expansions : List (Nat × List Nat))
    (runs : List CaseRun)
    (character : Char) : List Char :=
  let code := character.toNat
  match expansions.lookup code with
  | some images => images.map Char.ofNat
  | none =>
      match runs.find? fun run => run.covers code with
      | some run => [shiftedChar code run.shift]
      | none => [character]

/-- The upper-case form of one character. -/
def upperChar (character : Char) : List Char :=
  if character.toNat < 128 then [character.toUpper]
  else mappedChar upperExpansions upperRuns character

/-- The lower-case form of one character, taken without its context. -/
def lowerChar (character : Char) : List Char :=
  if character.toNat < 128 then [character.toLower]
  else mappedChar lowerExpansions lowerRuns character

/-- The upper-case form of a sequence of characters. -/
def upperChars (characters : List Char) : List Char :=
  characters.flatMap upperChar

/-- The upper-case form of a text. -/
def upper (text : String) : String :=
  String.ofList (upperChars text.toList)

/-- Whether the nearest character that is not case-ignorable exists and is cased. -/
def meetsCased (neighbours : List Char) : Bool :=
  match neighbours.dropWhile fun character =>
      inRanges caseIgnorableRanges character.toNat with
  | [] => false
  | character :: _ => inRanges casedRanges character.toNat

/-- The capital sigma, the one character whose lower-case form hangs on its neighbours. -/
def capitalSigma : Char := '\u03a3'

/--
The lower-case form of the characters in `rest`, where `before` holds the
characters that stand in front of them, nearest first.
-/
def lowerAfter (before : List Char) : List Char → List Char
  | [] => []
  | character :: rest =>
      let image :=
        if character = capitalSigma then
          if meetsCased before && !meetsCased rest then ['\u03c2'] else ['\u03c3']
        else lowerChar character
      image ++ lowerAfter (character :: before) rest

/-- The lower-case form of a sequence of characters. -/
def lowerChars (characters : List Char) : List Char :=
  lowerAfter [] characters

/-- The lower-case form of a text. -/
def lower (text : String) : String :=
  String.ofList (lowerChars text.toList)

/-! ## The mappings are never empty -/

theorem mappedChar_ne_nil
    {expansions : List (Nat × List Nat)}
    (nonempty : ∀ entry ∈ expansions, entry.2 ≠ [])
    (runs : List CaseRun)
    (character : Char) :
    mappedChar expansions runs character ≠ [] := by
  simp only [mappedChar]
  split
  · next images found =>
      have present : ∃ entry ∈ expansions, entry.2 = images := by
        induction expansions with
        | nil => simp at found
        | cons entry rest inductionHypothesis =>
            obtain ⟨code, listed⟩ := entry
            rw [List.lookup_cons] at found
            split at found
            · exact ⟨_, List.mem_cons_self, by simpa using found⟩
            · obtain ⟨other, member, equal⟩ := inductionHypothesis
                (fun other member => nonempty other (List.mem_cons_of_mem _ member)) found
              exact ⟨other, List.mem_cons_of_mem _ member, equal⟩
      obtain ⟨entry, member, rfl⟩ := present
      simpa using nonempty entry member
  · split <;> simp

theorem lowerChar_ne_nil (character : Char) : lowerChar character ≠ [] := by
  rw [lowerChar]
  split
  · simp
  · exact mappedChar_ne_nil (by decide) _ _

theorem lowerAfter_ne_nil
    (before : List Char)
    {characters : List Char}
    (nonempty : characters ≠ []) :
    lowerAfter before characters ≠ [] := by
  cases characters with
  | nil => exact absurd rfl nonempty
  | cons character rest =>
      simp only [lowerAfter]
      split
      · split <;> simp
      · simp [lowerChar_ne_nil]

end Text
end RowFilter
