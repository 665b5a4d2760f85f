/-!
# Taking texts apart

A text is cut at every occurrence of one separator character, so `n`
separators give `n + 1` pieces and joining the pieces gives the text back.
Blanks are stripped from the ends of a text: the white space of Unicode and the
four information separators U+001C to U+001F.
-/

namespace RowFilter
namespace Text

/-! ## Splitting at a separator -/

/-- The pieces of a sequence between the occurrences of the separator. -/
def splitChars (separator : Char) : List Char → List (List Char)
  | [] => [[]]
  | character :: rest =>
      if character = separator then [] :: splitChars separator rest
      else
        match splitChars separator rest with
        | [] => [[character]]
        | piece :: pieces => (character :: piece) :: pieces

/-- The pieces joined with the separator between neighbours. -/
def joinChars (separator : Char) : List (List Char) → List Char
  | [] => []
  | [piece] => piece
  | piece :: pieces => piece ++ separator :: joinChars separator pieces

/-- The pieces of a text between the occurrences of the separator. -/
def split (separator : Char) (text : String) : List String :=
  (splitChars separator text.toList).map String.ofList

/-- The texts joined with the separator between neighbours. -/
def join (separator : Char) (texts : List String) : String :=
  String.ofList (joinChars separator (texts.map String.toList))

theorem splitChars_ne_nil (separator : Char) (characters : List Char) :
    splitChars separator characters ≠ [] := by
  cases characters with
  | nil => simp [splitChars]
  | cons character rest =>
      simp only [splitChars]
      split
      · simp
      · split <;> simp

theorem joinChars_splitChars (separator : Char) (characters : List Char) :
    joinChars separator (splitChars separator characters) = characters := by
  induction characters with
  | nil => rfl
  | cons character rest inductionHypothesis =>
      have nonempty := splitChars_ne_nil separator rest
      simp only [splitChars]
      split
      · next equal =>
          subst equal
          cases pieces : splitChars character rest with
          | nil => exact absurd pieces nonempty
          | cons piece others =>
              simp [joinChars, ← pieces, inductionHypothesis]
      · cases pieces : splitChars separator rest with
        | nil => exact absurd pieces nonempty
        | cons piece others =>
            rw [pieces] at inductionHypothesis
            cases others with
            | nil => simpa [joinChars] using inductionHypothesis
            | cons other others => simpa [joinChars] using inductionHypothesis

/-! ## Blanks at the ends -/

/-- A character that counts as blank at the ends of a text. -/
def isBlank (character : Char) : Bool :=
  let code := character.toNat
  (9 ≤ code && code ≤ 13) || (0x1C ≤ code && code ≤ 0x20) || code == 0x85 || code == 0xA0
    || code == 0x1680 || (0x2000 ≤ code && code ≤ 0x200A) || code == 0x2028 || code == 0x2029
    || code == 0x202F || code == 0x205F || code == 0x3000

/-- The characters without the blanks at both ends. -/
def stripChars (characters : List Char) : List Char :=
  ((characters.dropWhile isBlank).reverse.dropWhile isBlank).reverse

/-- A text without the blanks at both ends. -/
def strip (text : String) : String :=
  String.ofList (stripChars text.toList)

/-- The characters without one line feed at their end. -/
def dropFinalNewline : List Char → List Char
  | [] => []
  | ['\n'] => []
  | character :: rest => character :: dropFinalNewline rest

end Text
end RowFilter
