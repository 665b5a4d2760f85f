import RowFilter.Proofs.Text.Snake
import RowFilter.Proofs.Text.Split

/-!
# From camel case to snake case

Words that are joined in camel case come apart in snake case.  The first sweep
breaks in front of some capitals: not where it has consumed the character
before, and not where a digit follows.  The second sweep breaks in front of
exactly the others.
-/

namespace RowFilter
namespace Text

/-! ## Words -/

/-- A small letter with small letters and digits after it. -/
structure Word where
  /-- The first letter. -/
  initial : Char
  /-- The characters after it. -/
  rest : List Char
  /-- The first letter is a small one. -/
  isSmall_initial : isSmall initial = true
  /-- Small letters and digits follow. -/
  isSmallOrDigit_rest : ∀ character ∈ rest, isSmallOrDigit character = true

namespace Word

/-- The characters of a word. -/
def chars (word : Word) : List Char :=
  word.initial :: word.rest

/-- The characters of a word with a capital in front. -/
def capitalized (word : Word) : List Char :=
  word.initial.toUpper :: word.rest

/-- The characters of a word with a capital in front, after an underscore. -/
def marked (word : Word) : List Char :=
  '_' :: word.capitalized

/-- The text of a word. -/
def text (word : Word) : String :=
  String.ofList word.chars

end Word

/-- Words in camel case: all but the first begin with a capital. -/
def camelCase (first : Word) (others : List Word) : String :=
  String.ofList (first.chars ++ others.flatMap Word.capitalized)

/-! ## Characters of words -/

section Characters

variable {character : Char}

theorem toNat_lt_of_isSmallOrDigit (small : isSmallOrDigit character = true) :
    character.toNat < 128 := by
  simp only [isSmallOrDigit, isSmall, Char.isDigit, Bool.or_eq_true, Bool.and_eq_true,
    decide_eq_true_eq] at small
  rcases small with letter | digit
  · have bound : character.toNat ≤ 122 := UInt32.le_iff_toNat_le.1 letter.2
    omega
  · have bound : character.toNat ≤ 57 := UInt32.le_iff_toNat_le.1 digit.2
    omega

theorem isSmallOrDigit_of_isSmall (small : isSmall character = true) :
    isSmallOrDigit character = true := by
  rw [isSmallOrDigit, small, Bool.true_or]

/-- A small letter or digit is no capital, and it is in lower case. -/
theorem of_isSmallOrDigit (small : isSmallOrDigit character = true) :
    isCapital character = false ∧ character ≠ '\n' ∧ character.toLower = character := by
  have each : ∀ character : Char, character.toNat < 128 → isSmallOrDigit character = true →
      isCapital character = false ∧ character ≠ '\n' ∧ character.toLower = character :=
    forall_char_lt (by decide)
  exact each character (toNat_lt_of_isSmallOrDigit small) small

/-- A capital is no small letter and no digit. -/
theorem isSmallOrDigit_eq_false_of_isCapital (capital : isCapital character = true) :
    isSmallOrDigit character = false := by
  rw [← Bool.not_eq_true]
  intro small
  rw [(of_isSmallOrDigit small).1] at capital
  exact Bool.false_ne_true capital

/-- The capital of a small letter is a capital whose small letter it is. -/
theorem of_isSmall (small : isSmall character = true) :
    isCapital character.toUpper = true ∧ character.toUpper.toNat < 128 ∧
      character.toUpper.toLower = character := by
  have each : ∀ character : Char, character.toNat < 128 → isSmall character = true →
      isCapital character.toUpper = true ∧ character.toUpper.toNat < 128 ∧
        character.toUpper.toLower = character :=
    forall_char_lt (by decide)
  exact each character (toNat_lt_of_isSmallOrDigit (isSmallOrDigit_of_isSmall small)) small

end Characters

/-- What begins with a small letter or a digit begins with no capital. -/
theorem isCapital_head?_append {tail rest : List Char}
    (small : ∀ character ∈ tail, isSmallOrDigit character = true) (nonempty : tail ≠ []) :
    ∀ next ∈ (tail ++ rest).head?, isCapital next = false := by
  cases tail with
  | nil => exact absurd rfl nonempty
  | cons first tail =>
      rintro next ⟨⟩
      exact (of_isSmallOrDigit (small first List.mem_cons_self)).1

/-- What passes over characters that no capital follows stops before the last small one. -/
theorem sweep_append {sweep : List Char → List Char}
    (passes : ∀ lead rest, (∀ next ∈ rest.head?, isCapital next = false) →
      sweep (lead :: rest) = lead :: sweep rest)
    {front : List Char} {lead : Char} (rest : List Char)
    (small : ∀ character ∈ front ++ [lead], isSmallOrDigit character = true) :
    sweep (front ++ lead :: rest) = front ++ sweep (lead :: rest) := by
  induction front with
  | nil => rfl
  | cons character front inductionHypothesis =>
      rw [List.cons_append, List.forall_mem_cons] at small
      have noCapital : ∀ next ∈ (front ++ lead :: rest).head?, isCapital next = false := by
        rw [List.append_cons]
        exact isCapital_head?_append small.2 (by simp)
      rw [List.cons_append, passes _ _ noCapital, inductionHypothesis small.2, List.cons_append]

/-! ## Steps of the first sweep -/

/-- The sweep passes over a character that no capital follows. -/
theorem breakWords_cons {lead : Char} {rest : List Char}
    (noCapital : ∀ next ∈ rest.head?, isCapital next = false) :
    breakWords (lead :: rest) = lead :: breakWords rest := by
  match rest with
  | [] => simp [breakWords]
  | [next] => simp [breakWords]
  | next :: small :: rest =>
      have whole : ¬(lead ≠ '\n' && isCapital next && isSmall small) = true := by
        simp [noCapital next rfl]
      rw [breakWords, if_neg whole]

/-- The sweep passes over a character before a capital that no small letter follows. -/
theorem breakWords_of_not_isSmall {lead capital next : Char} {rest : List Char}
    (other : isSmall next = false) :
    breakWords (lead :: capital :: next :: rest) =
      lead :: breakWords (capital :: next :: rest) := by
  rw [breakWords, if_neg (by simp [other])]

/-- The sweep breaks before a capital that a small letter follows. -/
theorem breakWords_of_isSmall {lead capital small : Char} {rest : List Char}
    (ordinary : lead ≠ '\n') (isCapital : isCapital capital = true)
    (isSmall : isSmall small = true) :
    breakWords (lead :: capital :: small :: rest) =
      lead :: '_' :: capital :: small ::
        (rest.takeWhile Text.isSmall ++ breakWords (rest.dropWhile Text.isSmall)) := by
  rw [breakWords, if_pos (by simp [ordinary, isCapital, isSmall])]

/-! ## The first sweep -/

/-- Words with capitals in front, some of them after an underscore. -/
inductive PartlyMarked : List Word → List Char → Prop
  /-- No words. -/
  | nil : PartlyMarked [] []
  /-- A word without an underscore. -/
  | bare {word : Word} {words : List Word} {characters : List Char}
      (others : PartlyMarked words characters) :
      PartlyMarked (word :: words) (word.capitalized ++ characters)
  /-- A word after an underscore. -/
  | marked {word : Word} {words : List Word} {characters : List Char}
      (others : PartlyMarked words characters) :
      PartlyMarked (word :: words) (word.marked ++ characters)

/-- No small letter stands in front of words with capitals. -/
theorem dropWhile_append_capitalized (characters : List Char) (words : List Word) :
    (characters ++ words.flatMap Word.capitalized).dropWhile isSmall =
      characters.dropWhile isSmall ++ words.flatMap Word.capitalized := by
  have kept : (words.flatMap Word.capitalized).dropWhile isSmall =
      words.flatMap Word.capitalized := by
    cases words with
    | nil => rfl
    | cons word words =>
        have notSmall : ¬isSmall word.initial.toUpper = true := by
          intro small
          have capital := (of_isSmall word.isSmall_initial).1
          rw [(of_isSmallOrDigit (isSmallOrDigit_of_isSmall small)).1] at capital
          exact Bool.false_ne_true capital
        exact List.dropWhile_cons_of_neg notSmall
  rw [List.dropWhile_append, kept]
  split
  · next gone => rw [List.isEmpty_iff.1 gone, List.nil_append]
  · rfl

/-- What the sweep takes of the characters before words goes up to what it drops down to. -/
theorem takeWhile_append_capitalized (characters : List Char) (words : List Word) :
    (characters ++ words.flatMap Word.capitalized).takeWhile isSmall ++
      characters.dropWhile isSmall = characters := by
  refine (List.append_left_inj (words.flatMap Word.capitalized)).1 ?_
  rw [List.append_assoc, ← dropWhile_append_capitalized, List.takeWhile_append_dropWhile]

/-- What the sweep makes of characters followed by words, whatever it makes of the words. -/
def SweepsTo (tail : List Char) (words : List Word) : Prop :=
  ∃ characters, PartlyMarked words characters ∧
    breakWords (tail ++ words.flatMap Word.capitalized) = tail ++ characters

variable {word : Word} {words : List Word} {tail : List Char}

/-- No break comes before a capital that the sweep starts from. -/
theorem sweepsTo_nil_cons (long : word.rest ≠ []) (sweeps : SweepsTo word.rest words) :
    SweepsTo [] (word :: words) := by
  obtain ⟨characters, marks, swept⟩ := sweeps
  refine ⟨word.capitalized ++ characters, .bare marks, ?_⟩
  have noCapital : ∀ next ∈ (word.rest ++ words.flatMap Word.capitalized).head?,
      isCapital next = false :=
    isCapital_head?_append word.isSmallOrDigit_rest long
  rw [List.flatMap_cons, Word.capitalized, List.nil_append, List.nil_append, List.cons_append,
    breakWords_cons noCapital, swept, List.cons_append]

/-- A break comes before the capital of a word that goes on with a small letter. -/
theorem sweepsTo_singleton_cons {lead : Char} (isSmallOrDigit_lead : isSmallOrDigit lead = true)
    (long : word.rest ≠ [])
    (sweeps : ∀ tail, (∀ character ∈ tail, isSmallOrDigit character = true) → SweepsTo tail words) :
    SweepsTo [lead] (word :: words) := by
  obtain ⟨second, rest, rest_eq⟩ := List.exists_cons_of_ne_nil long
  have restSmall := word.isSmallOrDigit_rest
  -- A digit behind the capital hides it from the sweep, which then starts from it.
  cases small : isSmall second with
  | false =>
      obtain ⟨characters, marks, swept⟩ := sweepsTo_nil_cons long (sweeps word.rest restSmall)
      refine ⟨characters, marks, ?_⟩
      rw [List.singleton_append, List.singleton_append, ← List.nil_append characters, ← swept]
      rw [List.flatMap_cons, Word.capitalized, rest_eq]
      exact breakWords_of_not_isSmall small
  | true =>
      rw [rest_eq, List.forall_mem_cons] at restSmall
      obtain ⟨characters, marks, swept⟩ := sweeps (rest.dropWhile isSmall)
        fun character member => restSmall.2 character ((List.dropWhile_suffix _).subset member)
      refine ⟨word.marked ++ characters, .marked marks, ?_⟩
      have ordinary := (of_isSmallOrDigit isSmallOrDigit_lead).2.1
      have capital := (of_isSmall word.isSmall_initial).1
      rw [List.flatMap_cons, Word.marked, Word.capitalized, rest_eq]
      simp only [List.cons_append, List.nil_append]
      rw [breakWords_of_isSmall ordinary capital small, dropWhile_append_capitalized, swept,
        ← List.append_assoc, takeWhile_append_capitalized]

/-- The sweep breaks in front of some of the capitals, and nowhere else. -/
theorem sweepsTo (long : ∀ word ∈ words, word.rest ≠ []) :
    ∀ tail, (∀ character ∈ tail, isSmallOrDigit character = true) → SweepsTo tail words := by
  -- The sweep may consume any part of a word, so the tail before the words varies.
  induction words with
  | nil =>
      intro tail small
      refine ⟨[], .nil, ?_⟩
      rw [List.flatMap_nil, List.append_nil]
      exact breakWords_eq_self fun character member => (of_isSmallOrDigit (small _ member)).1
  | cons word words inductionHypothesis =>
      rw [List.forall_mem_cons] at long
      have sweeps := inductionHypothesis long.2
      intro tail small
      rcases List.eq_nil_or_concat' tail with rfl | ⟨front, lead, rfl⟩
      · exact sweepsTo_nil_cons long.1 (sweeps word.rest word.isSmallOrDigit_rest)
      · have isSmallOrDigit_lead : isSmallOrDigit lead = true := small lead (by simp)
        obtain ⟨characters, marks, swept⟩ :=
          sweepsTo_singleton_cons isSmallOrDigit_lead long.1 sweeps
        refine ⟨characters, marks, ?_⟩
        rw [List.append_assoc, List.singleton_append,
          sweep_append (fun _ _ => breakWords_cons) _ small, ← List.singleton_append, swept,
          List.append_assoc]

/-! ## The second sweep -/

/-- The sweep passes over a character that no capital follows. -/
theorem breakCapitals_cons {lead : Char} {rest : List Char}
    (noCapital : ∀ next ∈ rest.head?, isCapital next = false) :
    breakCapitals (lead :: rest) = lead :: breakCapitals rest := by
  cases rest with
  | nil => rfl
  | cons next rest => rw [breakCapitals, if_neg (by simp [noCapital next rfl])]

/-- The sweep passes over what is no small letter and no digit. -/
theorem breakCapitals_cons_of_not_isSmallOrDigit {lead : Char} {rest : List Char}
    (other : isSmallOrDigit lead = false) :
    breakCapitals (lead :: rest) = lead :: breakCapitals rest := by
  cases rest with
  | nil => rfl
  | cons next rest => rw [breakCapitals, if_neg (by simp [other])]

/-- The sweep breaks between a small letter or digit and a capital. -/
theorem breakCapitals_of_isCapital {lead capital : Char} {rest : List Char}
    (isSmallOrDigit_lead : isSmallOrDigit lead = true) (isCapital : isCapital capital = true) :
    breakCapitals (lead :: capital :: rest) = lead :: '_' :: capital :: breakCapitals rest := by
  rw [breakCapitals, if_pos (by simp [isSmallOrDigit_lead, isCapital])]

/-- A break comes before the capital of a word without an underscore. -/
theorem breakCapitals_append_capitalized
    (small : ∀ character ∈ tail, isSmallOrDigit character = true) (nonempty : tail ≠ [])
    (rest : List Char) :
    breakCapitals (tail ++ (word.capitalized ++ rest)) =
      tail ++ '_' :: word.initial.toUpper :: breakCapitals (word.rest ++ rest) := by
  obtain ⟨front, lead, rfl⟩ := (List.eq_nil_or_concat' tail).resolve_left nonempty
  have isSmallOrDigit_lead : isSmallOrDigit lead = true := small lead (by simp)
  have capital := (of_isSmall word.isSmall_initial).1
  rw [List.append_assoc, List.singleton_append,
    sweep_append (fun _ _ => breakCapitals_cons) _ small, Word.capitalized, List.cons_append,
    breakCapitals_of_isCapital isSmallOrDigit_lead capital, List.append_cons]

/-- Where an underscore stands the sweep passes over it and over the capital after it. -/
theorem breakCapitals_append_marked
    (small : ∀ character ∈ tail, isSmallOrDigit character = true) (nonempty : tail ≠ [])
    (rest : List Char) :
    breakCapitals (tail ++ (word.marked ++ rest)) =
      tail ++ '_' :: word.initial.toUpper :: breakCapitals (word.rest ++ rest) := by
  obtain ⟨front, lead, rfl⟩ := (List.eq_nil_or_concat' tail).resolve_left nonempty
  have capital := (of_isSmall word.isSmall_initial).1
  have underscore : ∀ next ∈ (word.marked ++ rest).head?, isCapital next = false := by
    rintro next ⟨⟩
    decide
  rw [List.append_assoc, List.singleton_append,
    sweep_append (fun _ _ => breakCapitals_cons) _ small, breakCapitals_cons underscore,
    Word.marked, Word.capitalized, List.cons_append, List.cons_append,
    breakCapitals_cons_of_not_isSmallOrDigit (by decide),
    breakCapitals_cons_of_not_isSmallOrDigit (isSmallOrDigit_eq_false_of_isCapital capital),
    List.append_cons]

/-- The sweep breaks in front of every capital where no underscore stands yet. -/
theorem breakCapitals_append_of_partlyMarked {characters : List Char}
    (marks : PartlyMarked words characters) (long : ∀ word ∈ words, word.rest ≠ []) :
    ∀ tail, (∀ character ∈ tail, isSmallOrDigit character = true) → tail ≠ [] →
      breakCapitals (tail ++ characters) = tail ++ words.flatMap Word.marked := by
  induction marks with
  | nil =>
      intro tail small nonempty
      rw [List.flatMap_nil, List.append_nil]
      exact breakCapitals_eq_self fun character member => (of_isSmallOrDigit (small _ member)).1
  | @bare word words characters others inductionHypothesis =>
      rw [List.forall_mem_cons] at long
      intro tail small nonempty
      rw [breakCapitals_append_capitalized small nonempty,
        inductionHypothesis long.2 word.rest word.isSmallOrDigit_rest long.1]
      rfl
  | @marked word words characters others inductionHypothesis =>
      rw [List.forall_mem_cons] at long
      intro tail small nonempty
      rw [breakCapitals_append_marked small nonempty,
        inductionHypothesis long.2 word.rest word.isSmallOrDigit_rest long.1]
      rfl

/-! ## Lower case -/

namespace Word

variable (word : Word)

/-- A word in small letters has small letters and digits only. -/
theorem isSmallOrDigit_chars : ∀ character ∈ word.chars, isSmallOrDigit character = true := by
  rw [chars, List.forall_mem_cons]
  exact ⟨isSmallOrDigit_of_isSmall word.isSmall_initial, word.isSmallOrDigit_rest⟩

/-- Small letters and digits stay as they are in lower case. -/
theorem map_toLower_of_isSmallOrDigit {characters : List Char}
    (small : ∀ character ∈ characters, isSmallOrDigit character = true) :
    characters.map Char.toLower = characters := by
  have fixed : ∀ character ∈ characters, character.toLower = id character :=
    fun character member => (of_isSmallOrDigit (small character member)).2.2
  rw [List.map_congr_left fixed, List.map_id]

/-- A marked capital becomes a mark before the word in small letters. -/
theorem map_toLower_marked : word.marked.map Char.toLower = '_' :: word.chars := by
  rw [marked, capitalized, List.map_cons, List.map_cons, (of_isSmall word.isSmall_initial).2.2,
    map_toLower_of_isSmallOrDigit word.isSmallOrDigit_rest]
  rfl

theorem toNat_lt_of_mem_marked : ∀ character ∈ word.marked, character.toNat < 128 := by
  rw [marked, capitalized, List.forall_mem_cons, List.forall_mem_cons]
  refine ⟨by decide, (of_isSmall word.isSmall_initial).2.1, fun character member => ?_⟩
  exact toNat_lt_of_isSmallOrDigit (word.isSmallOrDigit_rest character member)

end Word

/-- Words after underscores are put in lower case one by one. -/
theorem lowerChars_append_marked (first : Word) (others : List Word) :
    lowerChars (first.chars ++ others.flatMap Word.marked) =
      first.chars ++ others.flatMap fun word => '_' :: word.chars := by
  have small := first.isSmallOrDigit_chars
  have ascii : ∀ character ∈ first.chars ++ others.flatMap Word.marked, character.toNat < 128 := by
    rw [List.forall_mem_append]
    refine ⟨fun character member => toNat_lt_of_isSmallOrDigit (small character member), ?_⟩
    intro character member
    obtain ⟨word, _, present⟩ := List.mem_flatMap.1 member
    exact word.toNat_lt_of_mem_marked character present
  rw [lowerChars_eq_map ascii, List.map_append, Word.map_toLower_of_isSmallOrDigit small,
    List.map_flatMap]
  simp only [Word.map_toLower_marked]

/--
Words in camel case come apart at underscores in snake case, for any number of
words that are longer than one letter from the second on.
-/
theorem snake_camelCase (first : Word) {others : List Word}
    (long : ∀ word ∈ others, word.rest ≠ []) :
    snake (camelCase first others) = join '_' ((first :: others).map Word.text) := by
  obtain ⟨characters, marks, swept⟩ := sweepsTo long first.chars first.isSmallOrDigit_chars
  have broken := breakCapitals_append_of_partlyMarked marks long first.chars
    first.isSmallOrDigit_chars (List.cons_ne_nil _ _)
  have joined : ((first :: others).map Word.text).map String.toList =
      first.chars :: others.map Word.chars := by
    simp [Word.text, Function.comp_def]
  rw [snake, camelCase, String.toList_ofList, snakeChars, swept, broken, lowerChars_append_marked,
    join, joined, joinChars_cons, List.flatMap_map]

/-! ### Short words with digits -/

namespace Sample

/-- A word of one letter. -/
def letter : Word where
  initial := 'a'
  rest := []
  isSmall_initial := by decide
  isSmallOrDigit_rest := List.forall_mem_nil _

/-- Words of two characters, a letter or a digit behind the first. -/
def shortWords : List Word :=
  [{ initial := 'b', rest := ['2'], isSmall_initial := by decide
     isSmallOrDigit_rest := List.forall_mem_singleton.2 (by decide) },
   { initial := 'c', rest := ['d'], isSmall_initial := by decide
     isSmallOrDigit_rest := List.forall_mem_singleton.2 (by decide) },
   { initial := 'e', rest := ['f'], isSmall_initial := by decide
     isSmallOrDigit_rest := List.forall_mem_singleton.2 (by decide) }]

end Sample

/-- The first sweep breaks before `Cd`, and only the second one before `B2` and `Ef`. -/
theorem snake_camelCase_shortWords :
    (∀ word ∈ Sample.shortWords, word.rest ≠ []) ∧
    camelCase Sample.letter Sample.shortWords = "aB2CdEf" ∧
    snake "aB2CdEf" = "a_b2_cd_ef" := by
  have long : ∀ word ∈ Sample.shortWords, word.rest ≠ [] := by simp [Sample.shortWords]
  have written : camelCase Sample.letter Sample.shortWords = "aB2CdEf" := by decide
  refine ⟨long, written, ?_⟩
  rw [← written, snake_camelCase Sample.letter long]
  decide

end Text
end RowFilter
