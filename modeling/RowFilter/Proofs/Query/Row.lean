import Mathlib.Data.List.Induction
import RowFilter.Query.Compile

/-!
# The rows that a filter asks for

A row has a value for every column.  Whether a filter holds of a row follows
from the filter, the columns and what the database does with values; nothing
of the compilation enters.
-/

namespace RowFilter

/-- The values of columns, by the names of the columns in upper case. -/
abbrev Row := String → Value

/-- What a database does with values. -/
structure Database where
  /-- Two values stand in the relation of a comparison. -/
  compares : Comparison → Value → Value → Bool
  /-- The text that is matched for a value. -/
  textOf : Value → String

namespace Columns

/-- The last column whose declared name has the given upper-case form. -/
def lastDeclared? (columns : Columns) (name : String) : Option ColumnSpec :=
  (columns.reverse.find? fun entry => Text.upper entry.1 == name).map Prod.snd

end Columns

/-- The first of the members that have the upper-case form of a text. -/
structure IsFirstNamed (members : List String) (text member : String) : Prop where
  /-- The member has the upper-case form. -/
  upper_eq : Text.upper member = Text.upper text
  /-- No member before it has the form. -/
  first : ∃ before after, members = before ++ member :: after ∧
    ∀ other ∈ before, Text.upper other ≠ Text.upper text

/-- Whether the value of a column meets a condition. -/
def Condition.Holds (database : Database) (spec : ColumnSpec) (value : Value) : Condition → Prop
  | .test (.compare comparison) item =>
      if comparison = .eq ∧ spec.isEnumeration = true then
        ∃ member, IsFirstNamed spec.members item.plain member ∧
          database.compares .eq value (.text member) = true
      else database.compares comparison value (align spec.type item) = true
  | .test _ item =>
      ∃ content, item = .text content ∧
        Text.upperChars content.toList <:+: Text.upperChars (database.textOf value).toList
  | .among items =>
      if spec.isEnumeration = true then
        ∃ member ∈ spec.members, (∃ item ∈ items, item.plain = member) ∧
          database.compares .eq value (.text member) = true
      else ∃ item ∈ items, database.compares .eq value (align spec.type item) = true

/-- Whether a row meets a filter: its field is the last column declared under that name. -/
def Filter.Holds (columns : Columns) (database : Database) (row : Row) (filter : Filter) : Prop :=
  ∃ spec, columns.lastDeclared? (Text.upper filter.field) = some spec ∧
    filter.condition.Holds database spec (row (Text.upper filter.field))

/-! ## Looking columns up -/

namespace Columns

theorem find?_cons (entry : String × ColumnSpec) (columns : Columns) (name : String) :
    find? (entry :: columns) name =
      if entry.1 = name then some entry.2 else columns.find? name := by
  rw [find?, List.lookup_cons]
  by_cases equal : entry.1 = name
  · rw [if_pos equal, beq_iff_eq.2 equal.symm]
  · rw [if_neg equal, beq_eq_false_iff_ne.2 (Ne.symm equal), find?]

theorem find?_insert (key name : String) (spec : ColumnSpec) (columns : Columns) :
    find? (insert key spec columns) name =
      if key = name then some spec else columns.find? name := by
  induction columns with
  | nil => rw [insert, find?_cons]
  | cons entry columns inductionHypothesis =>
      obtain ⟨present, old⟩ := entry
      rw [insert, find?_cons (present, old)]
      by_cases same : present = key
      · rw [if_pos same, find?_cons, same]
        split <;> rfl
      · rw [if_neg same, find?_cons, inductionHypothesis]
        by_cases equal : present = name
        · rw [if_pos equal, if_neg (fun keyEqual => same (equal.trans keyEqual.symm)), if_pos equal]
        · rw [if_neg equal, if_neg equal]

theorem ofList_append_singleton
    (entries : List (String × ColumnSpec)) (entry : String × ColumnSpec) :
    ofList (entries ++ [entry]) = insert entry.1 entry.2 (ofList entries) := by
  simp [ofList]

/-- Looking a name up in upper case finds the last column that was declared under it. -/
theorem find?_upperNames (columns : Columns) (name : String) :
    columns.upperNames.find? name = columns.lastDeclared? name := by
  induction columns using List.reverseRecOn with
  | nil => rfl
  | append_singleton columns entry inductionHypothesis =>
      rw [upperNames, List.map_append, List.map_singleton, ofList_append_singleton, find?_insert,
        lastDeclared?, List.reverse_append, List.reverse_singleton, List.singleton_append,
        List.find?_cons]
      by_cases equal : Text.upper entry.1 = name
      · simp [equal]
      · rw [if_neg equal, beq_eq_false_iff_ne.2 equal]
        exact inductionHypothesis

end Columns

/-! ## Members of an enumeration -/

/-- The member that is found is the first of the same upper case. -/
theorem matchingMember?_eq_some_iff
    {members : List String} {value : Value} {member : String} :
    matchingMember? members value = some member ↔ IsFirstNamed members value.plain member := by
  rw [matchingMember?, List.find?_eq_some_iff_append]
  constructor
  · rintro ⟨named, before, after, rfl, others⟩
    exact ⟨by simpa using named, before, after, rfl, by simpa using others⟩
  · rintro ⟨named, before, after, rfl, others⟩
    exact ⟨by simpa using named, before, after, rfl, by simpa using others⟩

/-- The members that are kept are those whose text is given. -/
theorem mem_namedMembers_iff {members : List String} {items : List Value} {member : String} :
    member ∈ namedMembers members items ↔
      member ∈ members ∧ ∃ item ∈ items, item.plain = member := by
  rw [namedMembers, List.mem_filter, List.contains_iff_mem, List.mem_map]

theorem IsFirstNamed.unique
    {members : List String} {value : Value} {left right : String}
    (leftFirst : IsFirstNamed members value.plain left)
    (rightFirst : IsFirstNamed members value.plain right) :
    left = right := by
  rw [← matchingMember?_eq_some_iff] at leftFirst rightFirst
  exact Option.some.inj (leftFirst.symm.trans rightFirst)

end RowFilter
