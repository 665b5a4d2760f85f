import RowFilter.Proofs.Pairs
import RowFilter.Proofs.Sql.Binding

/-!
# Statements as templates

Where values go by name a statement is a template: a percent sign begins a
conversion, and a doubled one stands for itself.  Text without percent signs is
copied, and the placeholder of a name is replaced by the value of that name.
-/

namespace RowFilter
namespace Sql

/-! ## Conversions -/

/-- What follows a percent sign in a template. -/
structure Conversion where
  /-- The name of the value in parentheses, where there is one. -/
  key : Option String
  /-- The flags, the width, the precision and the size. -/
  marks : List Char
  /-- How the value is written. -/
  letter : Char
deriving DecidableEq

namespace Conversion

/-- A character that may stand between the name and the letter of a conversion. -/
def isMark (character : Char) : Bool :=
  "#- +.*hlL".toList.contains character || character.isDigit

/-- The letters of conversions. -/
def letters : List Char :=
  "diouxXeEfFgGcrsa".toList

/--
The characters up to the parenthesis that closes a name, and those after it.
Inside of the name `depth` parentheses are open.
-/
def takeKey (depth : Nat) : List Char → Option (List Char × List Char)
  | [] => none
  | character :: rest =>
      if character = ')' ∧ depth = 0 then some ([], rest)
      else
        let inner :=
          if character = '(' then depth + 1 else if character = ')' then depth - 1 else depth
        (takeKey inner rest).map fun (key, after) => (character :: key, after)

/-- The rest of a conversion after its name, and the characters after the conversion. -/
def readAfter (key : Option String) (characters : List Char) : Option (Conversion × List Char) :=
  match characters.dropWhile isMark with
  | [] => none
  | letter :: rest => some ({ key, marks := characters.takeWhile isMark, letter }, rest)

/-- The conversion that characters start with, and the characters after it. -/
def read : List Char → Option (Conversion × List Char)
  | '(' :: rest =>
      match takeKey 0 rest with
      | none => none
      | some (key, after) => readAfter (some (String.ofList key)) after
  | characters => readAfter none characters

/-- Taking a key makes the text shorter. -/
theorem length_of_takeKey
    {depth : Nat} {characters key after : List Char}
    (taken : takeKey depth characters = some (key, after)) :
    after.length < characters.length := by
  induction characters generalizing depth key with
  | nil => cases taken
  | cons character rest inductionHypothesis =>
      rw [takeKey] at taken
      split at taken
      · cases taken
        exact Nat.lt_succ_self _
      · obtain ⟨⟨inner, left⟩, found, equal⟩ := Option.map_eq_some_iff.1 taken
        cases equal
        exact Nat.lt_succ_of_lt (inductionHypothesis found)

/-- Reading a conversion after its key makes the text shorter. -/
theorem length_of_readAfter
    {key : Option String} {characters after : List Char} {conversion : Conversion}
    (found : readAfter key characters = some (conversion, after)) :
    after.length < characters.length := by
  rw [readAfter] at found
  split at found
  · cases found
  · next letter rest dropped =>
      cases found
      have := (List.dropWhile_suffix isMark (l := characters)).length_le
      rw [dropped, List.length_cons] at this
      omega

/-- Reading a conversion makes the text shorter, so formatting ends. -/
theorem length_of_read
    {characters after : List Char} {conversion : Conversion}
    (found : read characters = some (conversion, after)) :
    after.length < characters.length := by
  rw [read.eq_def] at found
  split at found
  · split at found
    · cases found
    · next taken =>
        have inside := length_of_takeKey taken
        have later := length_of_readAfter found
        rw [List.length_cons]
        omega
  · exact length_of_readAfter found

/-- Without parentheses in it a name ends at the first one that closes. -/
theorem takeKey_name
    {name : List Char} (noOpening : '(' ∉ name) (noClosing : ')' ∉ name) (rest : List Char) :
    takeKey 0 (name ++ ')' :: rest) = some (name, rest) := by
  induction name with
  | nil => rfl
  | cons character name inductionHypothesis =>
      rw [List.mem_cons, not_or] at noOpening noClosing
      rw [List.cons_append, takeKey, if_neg (fun both => noClosing.1 both.1.symm),
        if_neg (Ne.symm noOpening.1), if_neg (Ne.symm noClosing.1)]
      simp only [inductionHypothesis noOpening.2 noClosing.2, Option.map_some]

end Conversion

/-! ## Templates -/

/-- How the values of a template are written. -/
structure Formatter where
  /-- The text of a value that is put in as it is. -/
  write : Value → String
  /--
  The text of a conversion that asks for anything else, given the parameters
  and the conversions before it; where there is none, the template is refused.
  -/
  convert : List (String × Value) → List Conversion → Conversion → Option String

namespace Formatter

variable (formatter : Formatter) (entries : List (String × Value))

/-- What is written for a conversion: the value of its name as it is, or as the formatter says. -/
def written (earlier : List Conversion) (conversion : Conversion) : Option String :=
  if conversion.letter ∉ Conversion.letters then none
  else
    match conversion with
    | { key := some name, marks := [], letter := 's' } =>
        (entries.lookup name).map formatter.write
    | conversion => formatter.convert entries earlier conversion

/-- The text of a template with its parameters; a template may be refused. -/
def format (earlier : List Conversion) : List Char → Option (List Char)
  | [] => some []
  | '%' :: '%' :: rest => (format earlier rest).map ('%' :: ·)
  | '%' :: rest =>
      match _found : Conversion.read rest with
      | none => none
      | some (conversion, after) =>
          -- What a conversion without a name is given hangs on those before it.
          match formatter.written entries earlier conversion with
          | none => none
          | some text => (format (earlier ++ [conversion]) after).map (text.toList ++ ·)
  | character :: rest => (format earlier rest).map (character :: ·)
termination_by characters => characters.length
decreasing_by
  · simp only [List.length_cons]
    omega
  · have := Conversion.length_of_read _found
    simp only [List.length_cons]
    omega
  · simp only [List.length_cons]
    omega

variable {formatter entries} {earlier : List Conversion}

/-- A character that is no percent sign is copied. -/
theorem format_cons_of_ne {character : Char} (other : character ≠ '%') (rest : List Char) :
    formatter.format entries earlier (character :: rest) =
      (formatter.format entries earlier rest).map (character :: ·) :=
  format.eq_4 formatter entries earlier character rest
    (fun _ same => absurd same other) (fun same => absurd same other)

/-- Text without percent signs is copied. -/
theorem format_append
    {segment : List Char} (free : '%' ∉ segment) (rest : List Char) :
    formatter.format entries earlier (segment ++ rest) =
      (formatter.format entries earlier rest).map (segment ++ ·) := by
  induction segment with
  | nil => simp
  | cons character segment inductionHypothesis =>
      rw [List.mem_cons, not_or] at free
      rw [List.cons_append, format_cons_of_ne (Ne.symm free.1), inductionHypothesis free.2,
        Option.map_map]
      rfl

/-- A conversion is replaced by what is written for it, and refused where nothing is. -/
theorem format_conversion
    {conversion : Conversion} {characters after : List Char}
    (found : Conversion.read characters = some (conversion, after))
    (single : characters.head? ≠ some '%') :
    formatter.format entries earlier ('%' :: characters) =
      (formatter.written entries earlier conversion).bind fun text =>
        (formatter.format entries (earlier ++ [conversion]) after).map (text.toList ++ ·) := by
  rw [format.eq_3 _ _ _ _ (by rintro rest rfl; exact single rfl)]
  split
  · next missing =>
      rw [found] at missing
      cases missing
  · next other _ same =>
      rw [found] at same
      cases same
      cases formatter.written entries earlier conversion <;> rfl

/-! ## Placeholders -/

/-- A name that may stand in parentheses. -/
def IsKey (name : String) : Prop :=
  '(' ∉ name.toList ∧ ')' ∉ name.toList

/-- The placeholder of a name is replaced by the value of the name. -/
theorem format_placeholder
    {name : String} (isKey : IsKey name) {value : Value} (given : entries.lookup name = some value)
    (rest : List Char) :
    ∃ later, formatter.format entries earlier ((namedPlaceholder name).toList ++ rest) =
      (formatter.format entries later rest).map ((formatter.write value).toList ++ ·) := by
  have chars : (namedPlaceholder name).toList ++ rest =
      '%' :: '(' :: (name.toList ++ ')' :: 's' :: rest) := by
    simp [namedPlaceholder]
  have read : Conversion.read ('(' :: (name.toList ++ ')' :: 's' :: rest)) =
      some ({ key := some name, marks := [], letter := 's' }, rest) := by
    simp only [Conversion.read, Conversion.takeKey_name isKey.1 isKey.2, String.ofList_toList]
    rfl
  have written :
      formatter.written entries earlier { key := some name, marks := [], letter := 's' } =
        some (formatter.write value) := by
    have letter : 's' ∈ Conversion.letters := by decide
    simp [Formatter.written, letter, given]
  refine ⟨earlier ++ [{ key := some name, marks := [], letter := 's' }], ?_⟩
  rw [chars, format_conversion read (by simp), written, Option.bind_some]

/--
Text without percent signs between placeholders is copied, and each placeholder
is replaced by the value of its own name.
-/
theorem format_interleaved
    {names : List String} {values : List Value}
    (given : List.Forall₂ (fun name value => IsKey name ∧ entries.lookup name = some value)
      names values)
    {segments : List String} (count : segments.length = names.length + 1)
    (free : ∀ segment ∈ segments, '%' ∉ segment.toList) :
    formatter.format entries earlier (interleaved segments (names.map namedPlaceholder)).toList =
      some (interleaved segments (values.map formatter.write)).toList := by
  induction given generalizing segments earlier with
  | nil =>
      obtain ⟨segment, rfl⟩ := List.length_eq_one_iff.1 count
      have copied := @format_append formatter entries earlier _
        (free segment List.mem_cons_self) []
      rw [List.append_nil, format, Option.map_some, List.append_nil] at copied
      exact copied
  | @cons name value names values first _ inductionHypothesis =>
      cases segments with
      | nil => cases count
      | cons segment segments =>
          rw [List.forall_mem_cons] at free
          simp only [List.map_cons, interleaved, String.toList_append, List.append_assoc]
          obtain ⟨later, replaced⟩ := @format_placeholder formatter entries earlier name first.1
            value first.2 (interleaved segments (names.map namedPlaceholder)).toList
          rw [format_append free.1, replaced,
            inductionHypothesis (Nat.succ.inj count) free.2]
          rfl

end Formatter

/-! ## The names of parameters -/

theorem mem_intChars {number : Int} {character : Char} (member : character ∈ Text.intChars number) :
    character = '-' ∨ character.isDigit = true := by
  rw [Text.intChars] at member
  split at member
  · rcases List.mem_cons.1 member with sign | digit
    · exact .inl sign
    · exact .inr (Text.isDigit_of_mem_digitChars digit)
  · exact .inr (Text.isDigit_of_mem_digitChars member)

namespace Sink

/-- The names of parameters may stand in parentheses when what they start with may. -/
theorem isKey_of_mem_nextNames
    {sink : Sink} (isKey : Formatter.IsKey sink.stem) {count : Nat} {name : String}
    (member : name ∈ sink.nextNames count) :
    Formatter.IsKey name := by
  obtain ⟨index, -, rfl⟩ := List.mem_map.1 member
  have absent {character : Char} (onStem : character ∉ sink.stem.toList)
      (other : ¬(character = '-' ∨ character.isDigit = true)) :
      character ∉ (sink.stem ++ Text.intText (sink.next + index)).toList := by
    rw [String.toList_append, Text.intText, String.toList_ofList, List.mem_append, not_or]
    exact ⟨onStem, fun member => other (mem_intChars member)⟩
  exact ⟨absent isKey.1 (by decide), absent isKey.2 (by decide)⟩

/-- Each of the next names may stand in parentheses and has the value that it is entered with. -/
theorem forall₂_nextNames
    {sink : Sink} (isKey : Formatter.IsKey sink.stem) (values : List Value) :
    List.Forall₂
      (fun name value => Formatter.IsKey name ∧
        ((sink.nextNames values.length).zip values).lookup name = some value)
      (sink.nextNames values.length) values := by
  have found := forall₂_lookup_zip (sink.nodup_nextNames values.length)
    (sink.length_nextNames values.length)
  rw [List.forall₂_iff_zip] at found ⊢
  refine ⟨found.1, fun member => ⟨?_, found.2 member⟩⟩
  exact isKey_of_mem_nextNames isKey (List.of_mem_zip member).1

end Sink
end Sql
end RowFilter
