import RowFilter.Proofs.Filter.Refusal
import RowFilter.Proofs.Number.Grammar
import RowFilter.Proofs.Text.Blank

/-!
# The integers that tokens denote

A token denotes an integer when it spells one within the bounds of filters.  The
tokens that are read as integers are these, and these with one line feed after
them; every other token is an invalid value.
-/

namespace RowFilter

theorem not_denotesInt_concat_newline {number : Int} (front : List Char) :
    ¬DenotesInt (front ++ ['\n']) number := by
  rintro ⟨⟨values, spells, -⟩, -, -⟩
  exact absurd (spells.forall_mem '\n' (by simp)) (by decide)

/-- A token reads as the integer that it denotes, with one line feed after it or without. -/
def ReadsInt (token : String) (number : Int) : Prop :=
  DenotesInt token.toList number ∨
    ∃ front, token.toList = front ++ ['\n'] ∧ DenotesInt front number

theorem coerce_int_eq_ok_iff {field token : String} {value : Value} :
    coerce field token .int = .ok value ↔
      ∃ number, value = .int number ∧ ReadsInt token number := by
  have line (number : Int) := Text.dropFinalNewline_iff (DenotesInt · number)
    not_denotesInt_concat_newline token.toList
  rw [coerce_eq_ok_iff, Kind.read?, Option.map_eq_some_iff]
  refine exists_congr fun number => ?_
  rw [readInt?_eq_some_iff, line, and_comm, eq_comm, ReadsInt]

/-- The tokens of the grammar are those that are read, less those with a line feed at the end. -/
theorem denotesInt_iff {field token : String} {number : Int} :
    DenotesInt token.toList number ↔
      coerce field token .int = .ok (.int number) ∧ token.toList.getLast? ≠ some '\n' := by
  simp only [coerce_int_eq_ok_iff, Value.int.injEq, exists_eq_left']
  constructor
  · intro denotes
    refine ⟨.inl denotes, fun final => ?_⟩
    obtain ⟨front, line⟩ := List.getLast?_eq_some_iff.1 final
    exact not_denotesInt_concat_newline front (line ▸ denotes)
  · rintro ⟨denotes | ⟨front, line, -⟩, other⟩
    · exact denotes
    · rw [line] at other
      exact absurd List.getLast?_concat other

/--
The tokens that are read as integers are those that denote one, and those with
one line feed after them; so what denotes an integer is what is read and does
not end in a line feed.  Every other token is an invalid value.
-/
theorem coerce_int_iff (field token : String) :
    (∀ value, coerce field token .int = .ok value ↔
      ∃ number, value = .int number ∧ ReadsInt token number) ∧
    (∀ number, DenotesInt token.toList number ↔
      coerce field token .int = .ok (.int number) ∧ token.toList.getLast? ≠ some '\n') ∧
    ∀ error, coerce field token .int = .error error ↔
      (∀ number, ¬ReadsInt token number) ∧ error = .invalidValue field .int token := by
  refine ⟨fun value => coerce_int_eq_ok_iff, fun number => denotesInt_iff, fun error => ?_⟩
  rw [(described_coerce field .int token).eq_error_iff, TokenFault]
  refine and_congr_left fun _ => ?_
  constructor
  · intro refused number reads
    exact refused _ (coerce_int_eq_ok_iff.2 ⟨number, rfl, reads⟩)
  · intro unread value read
    obtain ⟨number, -, reads⟩ := coerce_int_eq_ok_iff.1 read
    exact unread number reads

/-- A line feed after an integer is read over. -/
theorem coerce_int_line :
    coerce "age" "5\n" .int = .ok (.int 5) ∧ ∀ number, ¬DenotesInt "5\n".toList number :=
  ⟨by decide, fun _ => not_denotesInt_concat_newline ['5']⟩

example : coerce "age" "+\u0665" .int = .ok (.int 5) := by decide

end RowFilter
