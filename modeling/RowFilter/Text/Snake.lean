import RowFilter.Text.Case

/-!
# Snake case

A camel-case name is broken by underscores in two sweeps.  The first breaks in
front of each capital that is followed by small letters; the second breaks
between a small letter or digit and a capital.  Both sweeps look at ASCII
letters only and take matches from left to right without overlap.  The result
is then put in lower case.
-/

namespace RowFilter
namespace Text

/-- An ASCII capital letter. -/
def isCapital (character : Char) : Bool :=
  'A' ≤ character && character ≤ 'Z'

/-- An ASCII small letter. -/
def isSmall (character : Char) : Bool :=
  'a' ≤ character && character ≤ 'z'

/-- An ASCII small letter or digit. -/
def isSmallOrDigit (character : Char) : Bool :=
  isSmall character || character.isDigit

theorem length_dropWhile_le (keep : Char → Bool) (characters : List Char) :
    (characters.dropWhile keep).length ≤ characters.length := by
  induction characters with
  | nil => simp
  | cons character rest inductionHypothesis =>
      simp only [List.dropWhile_cons]
      split
      · exact Nat.le_succ_of_le inductionHypothesis
      · exact Nat.le_refl _

/--
The first sweep.  Where any character but a line feed stands before a capital
that small letters follow, an underscore goes in front of the capital, and the
sweep goes on after the small letters.
-/
def breakWords : List Char → List Char
  | lead :: capital :: small :: rest =>
      if lead ≠ '\n' && isCapital capital && isSmall small then
        lead :: '_' :: capital :: small ::
          (rest.takeWhile isSmall ++ breakWords (rest.dropWhile isSmall))
      else lead :: breakWords (capital :: small :: rest)
  | characters => characters
termination_by characters => characters.length
decreasing_by
  · have := length_dropWhile_le isSmall rest
    simp only [List.length_cons]
    omega
  · simp

/--
The second sweep.  Where a small letter or digit stands before a capital, an
underscore goes between them, and the sweep goes on after the capital.
-/
def breakCapitals : List Char → List Char
  | lead :: capital :: rest =>
      if isSmallOrDigit lead && isCapital capital then
        lead :: '_' :: capital :: breakCapitals rest
      else lead :: breakCapitals (capital :: rest)
  | characters => characters

/-- A camel-case name in snake case. -/
def snakeChars (characters : List Char) : List Char :=
  lowerChars (breakCapitals (breakWords characters))

/-- A camel-case name in snake case. -/
def snake (name : String) : String :=
  String.ofList (snakeChars name.toList)

theorem breakWords_ne_nil {characters : List Char} (nonempty : characters ≠ []) :
    breakWords characters ≠ [] := by
  unfold breakWords
  split
  · split <;> simp
  · exact nonempty

theorem breakCapitals_ne_nil {characters : List Char} (nonempty : characters ≠ []) :
    breakCapitals characters ≠ [] := by
  unfold breakCapitals
  split
  · split <;> simp
  · exact nonempty

theorem snake_ne_empty {name : String} (nonempty : name ≠ "") : snake name ≠ "" := by
  intro equal
  have characters : snakeChars name.toList = [] := by
    simpa [snake] using congrArg String.toList equal
  refine lowerAfter_ne_nil [] ?_ characters
  refine breakCapitals_ne_nil (breakWords_ne_nil ?_)
  simpa using nonempty

end Text
end RowFilter
