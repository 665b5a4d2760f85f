import Mathlib.Data.List.Basic
import RowFilter.Text.Octets

/-!
# What a case mapping writes is final

What upper-casing writes has no other upper-case form, and what lower-casing
writes has no other lower-case form.  The tables of a mapping are checked run
against run: the images of a run lie before, behind or between the code points
of every other.
-/

namespace RowFilter
namespace Text

namespace CaseRun

/-- The image of the first code point of a run. -/
def imageFirst (run : CaseRun) : Nat :=
  Int.toNat (run.first + run.shift)

/-- The image of the last code point of a run. -/
def imageLast (run : CaseRun) : Nat :=
  Int.toNat (run.last + run.shift)

/-- The images of a run are characters, none of them from `low` on and below `high`. -/
def hasProperImages (run : CaseRun) (low high : Nat) : Bool :=
  0 ≤ run.first + run.shift &&
    (run.imageLast < 0xD800 || 0xE000 ≤ run.imageFirst && run.imageLast < 0x110000) &&
    (run.imageLast < low || high ≤ run.imageFirst)

/-- The images of a run lie before, behind or between the code points of another. -/
def misses (run other : CaseRun) : Bool :=
  run.imageLast.blt other.first || other.last.blt run.imageFirst ||
    (run.first == run.last && !other.covers run.imageFirst) ||
    (run.step == 2 && other.step == 2 && (run.imageFirst + other.first) % 2 == 1)

/-- A code point lies before or behind the images of a run. -/
def missesCode (run : CaseRun) (code : Nat) : Bool :=
  code.blt run.imageFirst || run.imageLast.blt code

variable {run other : CaseRun} {code low high : Nat}

/-- A run covers the codes between its ends, in its steps. -/
theorem covers_iff :
    run.covers code = true ↔
      run.first ≤ code ∧ code ≤ run.last ∧ (code - run.first) % run.step = 0 := by
  simp [covers, and_assoc]

/-- The images keep the distances between the code points of a run. -/
theorem image_eq (proper : run.hasProperImages low high = true)
    (covered : run.covers code = true) :
    Int.toNat (code + run.shift) = run.imageFirst + (code - run.first) := by
  obtain ⟨least, -, -⟩ := covers_iff.1 covered
  have nonneg : 0 ≤ run.first + run.shift := by
    simp only [hasProperImages, Bool.and_eq_true, decide_eq_true_eq] at proper
    exact proper.1.1
  rw [imageFirst]
  omega

/-- No image of a run lies beyond the greatest one. -/
theorem image_le (covered : run.covers code = true) :
    Int.toNat (code + run.shift) ≤ run.imageLast := by
  obtain ⟨-, most, -⟩ := covers_iff.1 covered
  rw [imageLast]
  omega

/-- A code that a run misses is no image of it. -/
theorem image_ne
    (proper : run.hasProperImages low high = true)
    (covered : run.covers code = true)
    {key : Nat}
    (misses : run.missesCode key = true) :
    key ≠ Int.toNat (code + run.shift) := by
  have most := image_le covered
  have image := image_eq proper covered
  simp only [missesCode, Bool.or_eq_true, Nat.blt_eq] at misses
  omega

/-- A run that another one misses does not cover the images of the other one. -/
theorem image_not_covered
    (proper : run.hasProperImages low high = true)
    (covered : run.covers code = true)
    (misses : run.misses other = true) :
    other.covers (Int.toNat (code + run.shift)) = false := by
  have most := image_le covered
  have image := image_eq proper covered
  obtain ⟨runFirst, runLast, runStep⟩ := covers_iff.1 covered
  rw [Bool.eq_false_iff, ne_eq]
  intro coveredToo
  obtain ⟨otherFirst, otherLast, otherStep⟩ := covers_iff.1 coveredToo
  simp only [CaseRun.misses, Bool.or_eq_true, Bool.and_eq_true, Nat.blt_eq, beq_iff_eq,
    Bool.not_eq_true'] at misses
  rcases misses with ((before | behind) | ⟨single, uncovered⟩) | ⟨⟨even, evenToo⟩, odd⟩
  · omega
  · omega
  · have same : Int.toNat (code + run.shift) = run.imageFirst := by omega
    rw [same, uncovered] at coveredToo
    exact Bool.false_ne_true coveredToo
  · -- Both runs take every second code point, and their first ones differ in parity.
    rw [even] at runStep
    rw [evenToo] at otherStep
    omega

end CaseRun

/-! ## Tables -/

/-- What holds of the characters of all code points below a bound holds of all such characters. -/
theorem forall_char_lt {bound : Nat} {holds : Char → Prop}
    (each : ∀ code < bound, holds (Char.ofNat code)) :
    ∀ character : Char, character.toNat < bound → holds character := by
  intro character below
  have holdsOf := each character.toNat below
  rwa [Char.ofNat_toNat] at holdsOf

/--
A case mapping: a function on ASCII characters, and tables for all others.  The
tables write no code point from `low` on and below `high`.
-/
structure CaseTable where
  /-- The mapping of ASCII characters. -/
  ascii : Char → Char
  /-- The characters that become several. -/
  expansions : List (Nat × List Nat)
  /-- The runs of characters that become one. -/
  runs : List CaseRun
  /-- The first code point that is not written. -/
  low : Nat
  /-- The code point behind the last one that is not written. -/
  high : Nat

namespace CaseTable

/-- What a case mapping writes for a character. -/
def image (table : CaseTable) (character : Char) : List Char :=
  if character.toNat < 128 then [table.ascii character]
  else mappedChar table.expansions table.runs character

/-- A character that the tables may write and that no table maps. -/
def isSettled (table : CaseTable) (code : Nat) : Bool :=
  decide code.isValidChar && (code.blt table.low || !code.blt table.high) &&
    (code.blt 128 || (table.expansions.all fun entry => entry.1 != code) &&
      table.runs.all fun run => run.last.blt code || code.blt run.first || !run.covers code)

/-- The mapping leaves as it is what it writes for ASCII characters, and its tables write only
what is settled. -/
structure IsFinal (table : CaseTable) : Prop where
  /-- What is written for an ASCII character is one, and stays as it is. -/
  ascii_ascii : ∀ character, character.toNat < 128 → (table.ascii character).toNat < 128 ∧
    table.ascii (table.ascii character) = table.ascii character
  /-- An ASCII character that the tables may write stays as it is. -/
  ascii_written : ∀ character, character.toNat < 128 →
    character.toNat < table.low ∨ table.high ≤ character.toNat → table.ascii character = character
  /-- The images of runs are characters that may be written. -/
  properImages : (table.runs.all fun run => run.hasProperImages table.low table.high) = true
  /-- No image of a run lies in a run. -/
  missRuns : (table.runs.all fun run => table.runs.all run.misses) = true
  /-- No image of a run becomes several characters. -/
  missExpansions :
    (table.runs.all fun run => table.expansions.all fun entry => run.missesCode entry.1) = true
  /-- What a character is expanded to is settled. -/
  settledExpansions : (table.expansions.all fun entry => entry.2.all table.isSettled) = true

variable {table : CaseTable} {code : Nat} {character written : Char}

/-- A code is settled when the table leaves it as it is. -/
theorem isSettled_iff :
    table.isSettled code = true ↔
      code.isValidChar ∧ (code < table.low ∨ table.high ≤ code) ∧
        (code < 128 ∨ (∀ entry ∈ table.expansions, entry.1 ≠ code) ∧
          ∀ run ∈ table.runs, run.covers code = false) := by
  have uncovered (run : CaseRun) :
      (run.last.blt code || code.blt run.first || !run.covers code) = true ↔
        run.covers code = false := by
    cases covered : run.covers code with
    | false => simp
    | true =>
        have := CaseRun.covers_iff.1 covered
        simp only [Bool.or_eq_true, Nat.blt_eq, Bool.not_true, Bool.false_eq_true, or_false,
          Bool.true_eq_false, iff_false]
        omega
  have large : (!code.blt table.high) = true ↔ table.high ≤ code := by
    rw [Bool.not_eq_true', ← Bool.not_eq_true, Nat.blt_eq, Nat.not_lt]
  simp only [isSettled, Bool.and_eq_true, Bool.or_eq_true, decide_eq_true_eq, Nat.blt_eq, large,
    List.all_eq_true, bne_iff_ne, uncovered, and_assoc]

theorem toNat_ofNat (valid : code.isValidChar) : (Char.ofNat code).toNat = code := by
  rw [Char.ofNat, dif_pos valid]
  rfl

theorem lookup_eq_none {entries : List (Nat × List Nat)}
    (apart : ∀ entry ∈ entries, entry.1 ≠ code) :
    entries.lookup code = none := by
  rw [List.lookup_eq_none_iff]
  intro entry member
  simpa using (apart entry member).symm

theorem mem_of_lookup_eq_some {entries : List (Nat × List Nat)} {images : List Nat}
    (found : entries.lookup code = some images) :
    (code, images) ∈ entries := by
  rw [List.lookup_eq_some_iff] at found
  obtain ⟨before, after, rfl, -⟩ := found
  simp

/-- The tables leave a settled character beyond ASCII as it is. -/
theorem mappedChar_of_isSettled
    (settled : table.isSettled character.toNat = true) (large : ¬character.toNat < 128) :
    mappedChar table.expansions table.runs character = [character] := by
  obtain ⟨-, -, small | ⟨noEntry, noRun⟩⟩ := isSettled_iff.1 settled
  · exact absurd small large
  · have uncovered : (table.runs.find? fun run => run.covers character.toNat) = none :=
      List.find?_eq_none.2 fun run member => by simp [noRun run member]
    simp only [mappedChar, lookup_eq_none noEntry, uncovered]

namespace IsFinal

variable (final : table.IsFinal)

include final

/-- The images of the runs are settled. -/
theorem isSettled_image {run : CaseRun} (listed : run ∈ table.runs)
    (covered : run.covers code = true) :
    table.isSettled (Int.toNat (code + run.shift)) = true := by
  have proper := List.all_eq_true.1 final.properImages run listed
  have missesRuns := List.all_eq_true.1 (List.all_eq_true.1 final.missRuns run listed)
  have missesKeys := List.all_eq_true.1 (List.all_eq_true.1 final.missExpansions run listed)
  have most := CaseRun.image_le covered
  have image := CaseRun.image_eq proper covered
  rw [isSettled_iff]
  have bounds := proper
  simp only [CaseRun.hasProperImages, Bool.and_eq_true, Bool.or_eq_true, decide_eq_true_eq]
    at bounds
  obtain ⟨⟨-, valid⟩, written⟩ := bounds
  refine ⟨?_, ?_, Or.inr ⟨?_, ?_⟩⟩
  · rcases valid with below | ⟨above, most⟩
    · exact Or.inl (by omega)
    · exact Or.inr (by omega)
  · rcases written with small | large
    · exact Or.inl (by omega)
    · exact Or.inr (by omega)
  · exact fun entry member => CaseRun.image_ne proper covered (missesKeys entry member)
  · exact fun other member => CaseRun.image_not_covered proper covered (missesRuns other member)

/-- What the tables write is settled, unless they leave a character as it is. -/
theorem isSettled_of_mem_mappedChar
    (member : written ∈ mappedChar table.expansions table.runs character) :
    table.isSettled written.toNat = true ∨
      written = character ∧ mappedChar table.expansions table.runs character = [character] := by
  have settled_ofNat (code : Nat) (settled : table.isSettled code = true) :
      table.isSettled (Char.ofNat code).toNat = true := by
    rwa [toNat_ofNat (isSettled_iff.1 settled).1]
  rw [mappedChar] at member
  split at member
  · next images found =>
      left
      obtain ⟨code, listed, rfl⟩ := List.mem_map.1 member
      have entry := List.all_eq_true.1 final.settledExpansions _ (mem_of_lookup_eq_some found)
      exact settled_ofNat code (List.all_eq_true.1 entry code listed)
  · next noEntry =>
      split at member
      · next run found =>
          left
          obtain rfl := List.mem_singleton.1 member
          have covered : run.covers character.toNat = true := by simpa using List.find?_some found
          exact settled_ofNat _
            (final.isSettled_image (List.mem_of_find?_eq_some found) covered)
      · next noRun =>
          obtain rfl := List.mem_singleton.1 member
          exact Or.inr ⟨rfl, by simp only [mappedChar, noEntry, noRun]⟩

/-- What the mapping writes it leaves as it is. -/
theorem image_of_mem (member : written ∈ table.image character) :
    table.image written = [written] := by
  by_cases ascii : character.toNat < 128
  · rw [image, if_pos ascii] at member
    obtain rfl := List.mem_singleton.1 member
    obtain ⟨stays, same⟩ := final.ascii_ascii character ascii
    rw [image, if_pos stays, same]
  · have mapped : written ∈ mappedChar table.expansions table.runs character := by
      rwa [image, if_neg ascii] at member
    rcases final.isSettled_of_mem_mappedChar mapped with settled | ⟨rfl, unmapped⟩
    · by_cases small : written.toNat < 128
      · rw [image, if_pos small, final.ascii_written written small (isSettled_iff.1 settled).2.1]
      · rw [image, if_neg small, mappedChar_of_isSettled settled small]
    · rw [image, if_neg ascii, unmapped]

end IsFinal

/-- Upper case; its tables write no small ASCII letter. -/
def upper : CaseTable :=
  { ascii := Char.toUpper, expansions := upperExpansions, runs := upperRuns
    low := 97, high := 128 }

/-- Lower case; its tables write no ASCII sign, digit or capital letter. -/
def lower : CaseTable :=
  { ascii := Char.toLower, expansions := lowerExpansions, runs := lowerRuns
    low := 0, high := 97 }

/-- The table of upper case maps nothing twice. -/
theorem isFinal_upper : upper.IsFinal where
  ascii_ascii := forall_char_lt (by decide +kernel)
  ascii_written := forall_char_lt (by decide +kernel)
  properImages := by decide +kernel
  missRuns := by decide +kernel
  missExpansions := by decide +kernel
  settledExpansions := by decide +kernel

/-- The table of lower case maps nothing twice. -/
theorem isFinal_lower : lower.IsFinal where
  ascii_ascii := forall_char_lt (by decide +kernel)
  ascii_written := forall_char_lt (by decide +kernel)
  properImages := by decide +kernel
  missRuns := by decide +kernel
  missExpansions := by decide +kernel
  settledExpansions := by decide +kernel

end CaseTable

/-! ## Upper case -/

/-- What the upper-case form of a character consists of is in upper case. -/
theorem upperChar_of_mem {character image : Char} (member : image ∈ upperChar character) :
    upperChar image = [image] :=
  CaseTable.isFinal_upper.image_of_mem member

/-- Upper-casing what is in upper case changes nothing. -/
theorem upperChars_upperChars (characters : List Char) :
    upperChars (upperChars characters) = upperChars characters := by
  have settled : ∀ image ∈ upperChars characters, upperChar image = [image] := by
    intro image member
    obtain ⟨character, -, member⟩ := List.mem_flatMap.1 member
    exact upperChar_of_mem member
  rw [upperChars, List.flatMap_congr settled, List.flatMap_singleton']

/-- Upper case is final. -/
theorem upper_upper (text : String) : upper (upper text) = upper text := by
  rw [upper, upper, String.toList_ofList, upperChars_upperChars]

/-! ## Lower case -/

/-- What the lower-case form of a character consists of is in lower case. -/
theorem lowerChar_of_mem {character image : Char} (member : image ∈ lowerChar character) :
    lowerChar image = [image] :=
  CaseTable.isFinal_lower.image_of_mem member

/-- An ASCII sign, digit or capital letter in a lower-case form stands there for itself. -/
theorem eq_of_mem_lowerChar {character image : Char} (member : image ∈ lowerChar character)
    (low : image.toNat < 97) :
    image = character := by
  have toLower_low : ∀ character : Char, character.toNat < 128 →
      character.toLower.toNat < 97 → character.toLower = character :=
    forall_char_lt (by decide)
  by_cases ascii : character.toNat < 128
  · rw [lowerChar, if_pos ascii] at member
    obtain rfl := List.mem_singleton.1 member
    exact toLower_low character ascii low
  · rw [lowerChar, if_neg ascii] at member
    rcases CaseTable.isFinal_lower.isSettled_of_mem_mappedChar member with settled | ⟨same, -⟩
    · rcases (CaseTable.isSettled_iff.1 settled).2.1 with below | above
      · exact absurd below (Nat.not_lt_zero _)
      · exact absurd low (Nat.not_lt.2 above)
    · exact same

/--
A character in the lower-case form of a text is in lower case and no capital
sigma.  If it is an ASCII sign, digit or capital letter, it stands in the text.
-/
theorem of_mem_lowerAfter {before characters : List Char} {image : Char}
    (member : image ∈ lowerAfter before characters) :
    lowerChar image = [image] ∧ image ≠ capitalSigma ∧
      (image.toNat < 97 → image ∈ characters) := by
  induction characters generalizing before with
  | nil => exact absurd member List.not_mem_nil
  | cons character characters inductionHypothesis =>
      rw [lowerAfter, List.mem_append] at member
      rcases member with here | later
      · split at here
        · -- The two small sigmas are what a capital one becomes.
          have small : image = '\u03c2' ∨ image = '\u03c3' := by
            split at here
            · exact Or.inl (List.mem_singleton.1 here)
            · exact Or.inr (List.mem_singleton.1 here)
          rcases small with rfl | rfl
          · exact ⟨by decide, by decide, fun low => absurd low (by decide)⟩
          · exact ⟨by decide, by decide, fun low => absurd low (by decide)⟩
        · have fixed := lowerChar_of_mem here
          refine ⟨fixed, ?_, fun low => ?_⟩
          · rintro rfl
            exact absurd fixed (by decide)
          · rw [eq_of_mem_lowerChar here low]
            exact List.mem_cons_self
      · obtain ⟨fixed, notSigma, low⟩ := inductionHypothesis later
        exact ⟨fixed, notSigma, fun small => List.mem_cons_of_mem _ (low small)⟩

/-- Characters that are in lower case stay as they are, and no sigma among them changes its form. -/
theorem lowerAfter_eq_self {before characters : List Char}
    (fixed : ∀ character ∈ characters,
      lowerChar character = [character] ∧ character ≠ capitalSigma) :
    lowerAfter before characters = characters := by
  induction characters generalizing before with
  | nil => rfl
  | cons character characters inductionHypothesis =>
      rw [List.forall_mem_cons] at fixed
      rw [lowerAfter, if_neg fixed.1.2, fixed.1.1, inductionHypothesis fixed.2]
      rfl

/-- ASCII characters are lower-cased one by one. -/
theorem lowerChars_eq_map {characters : List Char}
    (ascii : ∀ character ∈ characters, character.toNat < 128) :
    lowerChars characters = characters.map Char.toLower := by
  suffices each : ∀ before, lowerAfter before characters = characters.map Char.toLower from each []
  induction characters with
  | nil => exact fun _ => rfl
  | cons character characters inductionHypothesis =>
      rw [List.forall_mem_cons] at ascii
      have notSigma : character ≠ capitalSigma := by
        rintro rfl
        exact absurd ascii.1 (by decide)
      intro before
      rw [lowerAfter, if_neg notSigma, lowerChar, if_pos ascii.1,
        inductionHypothesis ascii.2, List.map_cons, List.singleton_append]

/-- Lower-casing what is in lower case changes nothing. -/
theorem lowerChars_lowerChars (characters : List Char) :
    lowerChars (lowerChars characters) = lowerChars characters := by
  apply lowerAfter_eq_self
  intro image member
  obtain ⟨fixed, notSigma, -⟩ := of_mem_lowerAfter member
  exact ⟨fixed, notSigma⟩

/-! ## Octets -/

/-- Upper case of octets is final. -/
theorem upperOctets_upperOctets (octets : List UInt8) :
    upperOctets (upperOctets octets) = upperOctets octets := by
  rw [upperOctets, upperOctets, List.map_map]
  apply List.map_congr_left
  intro octet _
  by_cases letter : 97 ≤ octet.toNat ∧ octet.toNat ≤ 122
  · have shifted : (octet - 32).toNat = octet.toNat - 32 :=
      UInt8.toNat_sub_of_le _ _ (UInt8.le_iff_toNat_le.2 (by simp; omega))
    have capital : ¬97 ≤ octet.toNat - 32 := by omega
    simp [letter, shifted, capital]
  · simp [letter]

/-- No text in upper case looks like octets: these are shown with a small letter in front. -/
theorem upper_ne_quotedOctets (text : String) (octets : List UInt8) :
    upper text ≠ quotedOctets octets := by
  intro equal
  have member : 'b' ∈ upperChars text.toList := by
    have : 'b' ∈ (upper text).toList := by simp [equal, quotedOctets]
    simpa [upper] using this
  obtain ⟨character, -, image⟩ := List.mem_flatMap.1 member
  exact absurd (upperChar_of_mem image) (by decide)

end Text
end RowFilter
