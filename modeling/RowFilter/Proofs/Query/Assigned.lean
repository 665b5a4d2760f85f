import Mathlib.Data.List.Dedup
import RowFilter.Proofs.Pairs
import RowFilter.Proofs.Query.Row

/-!
# Columns assigned one after the other

Where a name is assigned more than once it keeps its first place and has the
column of its last assignment.
-/

namespace RowFilter
namespace Columns

/-- The columns after assignments: each name once, at its first place, with its last column. -/
structure AreAssigned (columns : Columns) (entries : List (String × ColumnSpec)) : Prop where
  /-- The names, in the order in which they came first. -/
  names_eq : columns.map Prod.fst = (entries.map Prod.fst).reverse.dedup.reverse
  /-- The column of a name is the last one that was assigned to it. -/
  find?_eq : ∀ name, columns.find? name = find? entries.reverse name

/--
An assignment to a new name adds the name at the end, and one to an old name
leaves the names alone.
-/
theorem names_insert (name : String) (spec : ColumnSpec) (columns : Columns) :
    (insert name spec columns).map Prod.fst =
      if name ∈ columns.map Prod.fst then columns.map Prod.fst
      else columns.map Prod.fst ++ [name] := by
  induction columns with
  | nil => rfl
  | cons entry columns inductionHypothesis =>
      obtain ⟨present, old⟩ := entry
      rw [insert]
      by_cases same : present = name
      · simp [same]
      · rw [if_neg same, List.map_cons, inductionHypothesis]
        by_cases later : name ∈ columns.map Prod.fst
        · simp [later]
        · simp [later, Ne.symm same]

/-- A list of entries is assigned one after the other. -/
theorem areAssigned_ofList (entries : List (String × ColumnSpec)) :
    (ofList entries).AreAssigned entries := by
  induction entries using List.reverseRecOn with
  | nil => exact ⟨rfl, fun _ => rfl⟩
  | append_singleton entries entry inductionHypothesis =>
      obtain ⟨names_eq, find?_eq⟩ := inductionHypothesis
      rw [ofList_append_singleton]
      constructor
      · rw [names_insert, names_eq, List.map_append, List.map_singleton, List.reverse_append,
          List.reverse_singleton, List.singleton_append]
        by_cases before : entry.1 ∈ (entries.map Prod.fst).reverse
        · rw [List.dedup_cons_of_mem before, if_pos (by simpa using before)]
        · rw [List.dedup_cons_of_notMem before, List.reverse_cons, if_neg (by simpa using before)]
      · intro name
        rw [find?_insert, find?_eq, List.reverse_append, List.reverse_singleton,
          List.singleton_append, find?_cons]

theorem AreAssigned.distinct {columns : Columns} {entries : List (String × ColumnSpec)}
    (assigned : columns.AreAssigned entries) :
    (columns.map Prod.fst).Nodup := by
  rw [assigned.names_eq, List.nodup_reverse]
  exact List.nodup_dedup _

/-- Where names are distinct, every column is found under its name. -/
theorem find?_of_mem {columns : Columns} (distinct : (columns.map Prod.fst).Nodup)
    {column : String × ColumnSpec} (member : column ∈ columns) :
    columns.find? column.1 = some column.2 :=
  lookup_of_mem distinct member

theorem mem_of_find? {columns : Columns} {name : String} {spec : ColumnSpec}
    (found : columns.find? name = some spec) :
    (name, spec) ∈ columns := by
  obtain ⟨before, after, rfl, -⟩ := List.lookup_eq_some_iff.1 found
  exact List.mem_append_right _ List.mem_cons_self

/-- Every column has been assigned. -/
theorem AreAssigned.mem {columns : Columns} {entries : List (String × ColumnSpec)}
    (assigned : columns.AreAssigned entries)
    {column : String × ColumnSpec} (member : column ∈ columns) :
    column ∈ entries := by
  have found := find?_of_mem assigned.distinct member
  rw [assigned.find?_eq] at found
  exact List.mem_reverse.1 (mem_of_find? found)

/-- Columns with the same names in the same order, and the same column for each name, are equal. -/
theorem eq_of_find?_eq {left right : Columns}
    (distinct : (left.map Prod.fst).Nodup)
    (names_eq : left.map Prod.fst = right.map Prod.fst)
    (find?_eq : ∀ name, left.find? name = right.find? name) :
    left = right := by
  have listed {columns : Columns} (distinct : (columns.map Prod.fst).Nodup) :
      columns.map (fun column => (column.1, some column.2)) =
        (columns.map Prod.fst).map fun name => (name, columns.find? name) := by
    rw [List.map_map]
    refine List.map_congr_left fun column member => ?_
    rw [Function.comp_apply, find?_of_mem distinct member]
  have same := listed distinct
  simp only [names_eq, find?_eq] at same
  rw [← listed (names_eq ▸ distinct)] at same
  refine List.map_injective_iff.2 ?_ same
  intro first second equal
  simpa [Prod.ext_iff] using equal

/-- Assignments have one outcome. -/
theorem areAssigned_iff {columns : Columns} {entries : List (String × ColumnSpec)} :
    columns.AreAssigned entries ↔ columns = ofList entries := by
  constructor
  · intro assigned
    have outcome := areAssigned_ofList entries
    refine eq_of_find?_eq assigned.distinct ?_ fun name => ?_
    · rw [assigned.names_eq, outcome.names_eq]
    · rw [assigned.find?_eq, outcome.find?_eq]
  · rintro rfl
    exact areAssigned_ofList entries

/-! ## Names that are in upper case already -/

theorem find?_eq_some_iff {columns : Columns} (distinct : (columns.map Prod.fst).Nodup)
    {name : String} {spec : ColumnSpec} :
    columns.find? name = some spec ↔ (name, spec) ∈ columns :=
  ⟨mem_of_find?, find?_of_mem distinct⟩

theorem areAssigned_self {columns : Columns} (distinct : (columns.map Prod.fst).Nodup) :
    columns.AreAssigned columns := by
  have reversed : (columns.reverse.map Prod.fst).Nodup := by
    rwa [List.map_reverse, List.nodup_reverse]
  constructor
  · rw [(List.nodup_reverse.2 distinct).dedup, List.reverse_reverse]
  · intro name
    refine Option.ext fun spec => ?_
    rw [find?_eq_some_iff distinct, find?_eq_some_iff reversed, List.mem_reverse]

/-- Distinct names in upper case stay as they are. -/
theorem upperNames_eq_self {columns : Columns} (distinct : (columns.map Prod.fst).Nodup)
    (upperCase : ∀ entry ∈ columns, Text.upper entry.1 = entry.1) :
    columns.upperNames = columns := by
  have unchanged : columns.map (fun entry => (Text.upper entry.1, entry.2)) = columns := by
    have fixed : ∀ entry ∈ columns, (Text.upper entry.1, entry.2) = id entry := by
      intro entry member
      rw [upperCase entry member, id]
    rw [List.map_congr_left fixed, List.map_id]
  rw [upperNames, unchanged]
  exact (areAssigned_iff.1 (areAssigned_self distinct)).symm

end Columns
end RowFilter
