import RowFilter.Proofs.Text.Case
import RowFilter.Text.Snake

/-!
# Snake case is final

A name in snake case has no capital letter, so neither sweep finds a place for
an underscore in it, and lower-casing it again changes nothing.  A name gets no
characters but underscores and small letters.
-/

namespace RowFilter
namespace Text

/-! ## The sweeps -/

/-- Without capitals no word is broken. -/
theorem breakWords_eq_self {characters : List Char}
    (noCapital : ∀ character ∈ characters, isCapital character = false) :
    breakWords characters = characters := by
  induction characters using breakWords.induct with
  | case1 lead capital small rest breaks =>
      simp [noCapital capital (by simp)] at breaks
  | case2 lead capital small rest whole inductionHypothesis =>
      rw [breakWords, if_neg whole, inductionHypothesis (List.forall_mem_cons.1 noCapital).2]
  | case3 characters short => exact breakWords.eq_2 characters short

/-- Without capitals no run of capitals is broken. -/
theorem breakCapitals_eq_self {characters : List Char}
    (noCapital : ∀ character ∈ characters, isCapital character = false) :
    breakCapitals characters = characters := by
  induction characters using breakCapitals.induct with
  | case1 lead capital rest breaks => simp [noCapital capital (by simp)] at breaks
  | case2 lead capital rest whole inductionHypothesis =>
      rw [breakCapitals, if_neg whole, inductionHypothesis (List.forall_mem_cons.1 noCapital).2]
  | case3 characters short => exact breakCapitals.eq_2 characters short

/-- The first sweep adds underscores only. -/
theorem of_mem_breakWords {characters : List Char} {character : Char}
    (member : character ∈ breakWords characters) :
    character = '_' ∨ character ∈ characters := by
  induction characters using breakWords.induct with
  | case1 lead capital small rest breaks inductionHypothesis =>
      rw [breakWords, if_pos breaks] at member
      simp only [List.mem_cons, List.mem_append] at member ⊢
      rcases member with here | same | here | here | taken | later
      · exact Or.inr (Or.inl here)
      · exact Or.inl same
      · exact Or.inr (Or.inr (Or.inl here))
      · exact Or.inr (Or.inr (Or.inr (Or.inl here)))
      · exact Or.inr (Or.inr (Or.inr (Or.inr ((List.takeWhile_prefix _).subset taken))))
      · rcases inductionHypothesis later with same | present
        · exact Or.inl same
        · exact Or.inr (Or.inr (Or.inr (Or.inr ((List.dropWhile_suffix _).subset present))))
  | case2 lead capital small rest whole inductionHypothesis =>
      rw [breakWords, if_neg whole] at member
      rcases List.mem_cons.1 member with rfl | later
      · exact Or.inr List.mem_cons_self
      · exact (inductionHypothesis later).imp id (List.mem_cons_of_mem _)
  | case3 characters short =>
      rw [breakWords.eq_2 characters short] at member
      exact Or.inr member

/-- The second sweep adds underscores only. -/
theorem of_mem_breakCapitals {characters : List Char} {character : Char}
    (member : character ∈ breakCapitals characters) :
    character = '_' ∨ character ∈ characters := by
  induction characters using breakCapitals.induct with
  | case1 lead capital rest breaks inductionHypothesis =>
      rw [breakCapitals, if_pos breaks] at member
      simp only [List.mem_cons] at member ⊢
      rcases member with here | same | here | later
      · exact Or.inr (Or.inl here)
      · exact Or.inl same
      · exact Or.inr (Or.inr (Or.inl here))
      · exact (inductionHypothesis later).imp id fun present => Or.inr (Or.inr present)
  | case2 lead capital rest whole inductionHypothesis =>
      rw [breakCapitals, if_neg whole] at member
      rcases List.mem_cons.1 member with rfl | later
      · exact Or.inr List.mem_cons_self
      · exact (inductionHypothesis later).imp id (List.mem_cons_of_mem _)
  | case3 characters short =>
      rw [breakCapitals.eq_2 characters short] at member
      exact Or.inr member

/-! ## Names in snake case -/

theorem toNat_lt_of_isCapital {character : Char} (capital : isCapital character = true) :
    character.toNat < 97 := by
  simp only [isCapital, Bool.and_eq_true, decide_eq_true_eq] at capital
  have bound : character.toNat ≤ 90 := UInt32.le_iff_toNat_le.1 capital.2
  omega

/-- A capital letter is not in lower case. -/
theorem isCapital_eq_false_of_lowerChar {character : Char}
    (fixed : lowerChar character = [character]) :
    isCapital character = false := by
  have changed : ∀ character : Char, character.toNat < 97 →
      lowerChar character = [character] → isCapital character = false :=
    forall_char_lt (by decide)
  rw [← Bool.not_eq_true]
  intro capital
  have notCapital := changed character (toNat_lt_of_isCapital capital) fixed
  rw [notCapital] at capital
  exact Bool.false_ne_true capital

/-- No capital is left in snake case. -/
theorem isCapital_of_mem_snakeChars (characters : List Char) :
    ∀ character ∈ snakeChars characters, isCapital character = false := fun _ member =>
  isCapital_eq_false_of_lowerChar (of_mem_lowerAfter member).1

/-- Putting a name in snake case once more changes nothing. -/
theorem snakeChars_snakeChars (characters : List Char) :
    snakeChars (snakeChars characters) = snakeChars characters := by
  have noCapital := isCapital_of_mem_snakeChars characters
  calc
    snakeChars (snakeChars characters)
        = lowerChars (breakCapitals (breakWords (snakeChars characters))) := rfl
    _ = lowerChars (snakeChars characters) := by
        rw [breakWords_eq_self noCapital, breakCapitals_eq_self noCapital]
    _ = snakeChars characters := lowerChars_lowerChars _

/-- Snake case is final. -/
theorem snake_snake (name : String) : snake (snake name) = snake name := by
  rw [snake, snake, String.toList_ofList, snakeChars_snakeChars]

/-- An ASCII sign, digit or capital letter that is no underscore is never added to a name. -/
theorem mem_of_mem_snake {name : String} {character : Char}
    (member : character ∈ (snake name).toList)
    (low : character.toNat < 97) (other : character ≠ '_') :
    character ∈ name.toList := by
  rw [snake, String.toList_ofList] at member
  have present := (of_mem_lowerAfter member).2.2 low
  have broken := (of_mem_breakCapitals present).resolve_left other
  exact (of_mem_breakWords broken).resolve_left other

end Text
end RowFilter
