import RowFilter.Proofs.Service.Answer
import RowFilter.Proofs.Sql.Members

/-!
# Equations and memberships on enumerations

An equation takes the first member with the upper-case form of its value, and a
membership takes the members that its values name.  On a member that is
declared the two agree as long as no other spelling of it is declared before.
-/

namespace RowFilter
namespace Sql

/--
The member that an equation compares with is the only one that a membership
lists exactly when both hold of the same rows, whatever the database.
-/
theorem truth_compare_eq_truth_among_iff
    (identifier : Identifier) (first member : String) (copies : Nat) :
    (∀ (database : Database) (row : Row),
      (Atom.compare identifier .eq (.text first)).truth database row =
        (Atom.among identifier (.text member)
          (List.replicate copies (.text member))).truth database row) ↔ first = member := by
  have listed (database : Database) (row : Row) :
      (Atom.among identifier (.text member)
          (List.replicate copies (.text member))).truth database row =
        database.compares .eq (row identifier.name) (.text member) := by
    rw [Atom.truth, ← List.replicate_succ, List.any_replicate]
    simp
  constructor
  · intro agree
    have onFirst := agree Database.exact fun _ => .text first
    rw [listed] at onFirst
    simpa [Atom.truth, Database.exact] using onFirst
  · rintro rfl database row
    rw [listed]
    rfl

end Sql

namespace Service
namespace Session

variable {path : Option String} {steps : List Step}

/-- A field with the name of a loaded column is resolved to it. -/
theorem resolver_of_loaded
    {named : Datum × Entity} (loaded : named ∈ (after path steps).catalogue)
    {column : String × ColumnSpec} (declared : column ∈ named.2.columns)
    {field : String} (upper_eq : Text.upper field = column.1) (quote : Bool) :
    Sql.resolver named.2.fieldColumns quote field =
      .ok { name := column.1, spec := column.2, quote } := by
  have distinct := ((lastLoaded_after path steps).isWellFormed named loaded).2
  refine ((named.2.described_resolver distinct quote field).eq_ok_iff _).2 ⟨column.2, ?_, ?_⟩
  · rw [upper_eq]
    exact declared
  · rw [upper_eq]

/--
On a column that is loaded, the equation with a member compares with the first
member of its upper-case form, and the membership of this one member lists
nothing else.  The two hold of the same rows exactly when the equation compares
with the member itself, and it does so exactly when no other spelling of the
member is declared before it.
-/
theorem equation_agrees_with_membership_iff
    {named : Datum × Entity} (loaded : named ∈ (after path steps).catalogue)
    {column : String × ColumnSpec} (declared : column ∈ named.2.columns)
    (enumeration : column.2.isEnumeration = true)
    {member : String} (listed : member ∈ column.2.members)
    {equation membership : Filter}
    (equationField : Text.upper equation.field = column.1)
    (membershipField : Text.upper membership.field = column.1)
    (equates : equation.condition = .test (.compare .eq) (.text member))
    (lists : membership.condition = .among [.text member])
    (quote : Bool) :
    ∃ first copies,
      IsFirstNamed column.2.members member first ∧
      compileFilter Sql.backend (Sql.resolver named.2.fieldColumns quote) equation =
        .ok { predicate := .atom (.compare (.ofName quote column.1) .eq (.text first)) } ∧
      compileFilter Sql.backend (Sql.resolver named.2.fieldColumns quote) membership =
        .ok {
          predicate := .atom (.among (.ofName quote column.1) (.text member)
            (List.replicate copies (.text member))) } ∧
      ((∀ (database : Database) (row : Row),
        (Sql.Atom.compare (.ofName quote column.1) .eq (.text first)).truth database row =
          (Sql.Atom.among (.ofName quote column.1) (.text member)
            (List.replicate copies (.text member))).truth database row) ↔ first = member) ∧
      (first = member ↔ IsFirstNamed column.2.members member member) := by
  obtain ⟨first, isFirst⟩ := exists_isFirstNamed listed
  obtain ⟨copies, count_eq⟩ := Nat.exists_eq_succ_of_ne_zero
    (Nat.ne_of_gt (List.count_pos_iff.2 listed))
  refine ⟨first, copies, isFirst, ?_, ?_, Sql.truth_compare_eq_truth_among_iff _ _ _ _,
    isFirst.eq_iff⟩
  · exact compileFilter_of_equation equates (resolver_of_loaded loaded declared equationField quote)
      enumeration isFirst
  · have silent : membershipWarning? membership.field column.2 [.text member] = none := by
      rw [membershipWarning?_eq_none_iff, List.forall_mem_singleton]
      exact listed
    rw [compileFilter_of_among lists (resolver_of_loaded loaded declared membershipField quote)
      enumeration]
    simp only [Sql.backend, silent, namedMembers_singleton, count_eq, List.replicate_succ,
      List.map_cons, List.map_replicate, Sql.Atom.ofValues, Sql.ColumnExpr.identifier]

/-! ### Two spellings of one state -/

namespace Sample

/-- A file with one view, whose states are two spellings of one word. -/
def taskFile : String :=
  "\x7b\"entities\": \x7b\"tasks\": \x7b\"view\": \"tasks\", \"columns\": \x7b\"state\": " ++
    "\x7b\"type\": \"ENUM\", \"members\": [\"Active\", \"ACTIVE\"]\x7d\x7d\x7d\x7d\x7d"

/-- The session that has loaded the file. -/
def taskSession : Session :=
  after (some "tasks.json") [.write taskFile, .load]

/-- The column of the states. -/
def stateColumn : String × ColumnSpec :=
  ("STATE", { type := .enumeration, enumName := some "state", members := ["Active", "ACTIVE"] })

/-- The view of the tasks. -/
def tasks : Entity :=
  { view := "tasks", columns := [stateColumn] }

theorem tasks_loaded : (.text "tasks", tasks) ∈ taskSession.catalogue := by
  have found : taskSession.catalogue.find? "tasks" = some tasks := by decide +kernel
  exact Catalogue.mem_of_find? found

theorem state_ne_empty : "state" ≠ "" := by decide

/-- The tasks in a state. -/
def isState (state : String) : Filter where
  field := "state"
  kind := .text
  condition := .test (.compare .eq) (.text state)
  field_ne_empty := state_ne_empty
  kind_of_mem := by simp [Condition.items, Value.kind]

/-- The tasks in one of a single state. -/
def inState (state : String) : Filter where
  field := "state"
  kind := .text
  condition := .among [.text state]
  field_ne_empty := state_ne_empty
  kind_of_mem := by simp [Condition.items, Value.kind]

end Sample

/-- The second spelling of a state cannot be asked for by an equation. -/
theorem equation_disagrees_with_membership_shadowed :
    (.text "tasks", Sample.tasks) ∈ Sample.taskSession.catalogue ∧
    Sample.stateColumn ∈ Sample.tasks.columns ∧
    "ACTIVE" ∈ Sample.stateColumn.2.members ∧
    compileFilter Sql.backend (Sql.resolver Sample.tasks.fieldColumns false)
        (Sample.isState "ACTIVE") =
      .ok { predicate := .atom (.compare (.bare "STATE") .eq (.text "Active")) } ∧
    compileFilter Sql.backend (Sql.resolver Sample.tasks.fieldColumns false)
        (Sample.inState "ACTIVE") =
      .ok { predicate := .atom (.among (.bare "STATE") (.text "ACTIVE") []) } ∧
    ∃ row : Row,
      (Sql.Atom.compare (.bare "STATE") .eq (.text "Active")).truth Database.exact row = true ∧
      (Sql.Atom.among (.bare "STATE") (.text "ACTIVE") []).truth Database.exact row = false := by
  have resolved : Sql.resolver Sample.tasks.fieldColumns false (Sample.inState "ACTIVE").field =
      .ok { name := "STATE", spec := Sample.stateColumn.2, quote := false } := rfl
  have silent : membershipWarning? "state" Sample.stateColumn.2 [.text "ACTIVE"] = none := by
    rw [membershipWarning?_eq_none_iff, List.forall_mem_singleton]
    decide
  have membership : compileFilter Sql.backend (Sql.resolver Sample.tasks.fieldColumns false)
        (Sample.inState "ACTIVE") =
      .ok { predicate := .atom (.among (.bare "STATE") (.text "ACTIVE") []) } := by
    rw [compileFilter_of_among rfl resolved rfl]
    exact congrArg (Except.ok ∘ Compiled.mk _) silent
  refine ⟨Sample.tasks_loaded, by simp [Sample.tasks], by decide, rfl, membership,
    fun _ => .text "Active", ?_, ?_⟩ <;> decide

/-- For the first of two spellings the equation and the membership ask for the same rows. -/
theorem equation_agrees_with_membership_iff_first :
    (.text "tasks", Sample.tasks) ∈ Sample.taskSession.catalogue ∧
    Sample.stateColumn ∈ Sample.tasks.columns ∧
    Sample.stateColumn.2.isEnumeration = true ∧
    "Active" ∈ Sample.stateColumn.2.members ∧
    ∃ first copies,
      IsFirstNamed Sample.stateColumn.2.members "Active" first ∧
      compileFilter Sql.backend (Sql.resolver Sample.tasks.fieldColumns true)
          (Sample.isState "Active") =
        .ok { predicate := .atom (.compare (.quoted "STATE") .eq (.text first)) } ∧
      compileFilter Sql.backend (Sql.resolver Sample.tasks.fieldColumns true)
          (Sample.inState "Active") =
        .ok {
          predicate := .atom (.among (.quoted "STATE") (.text "Active")
            (List.replicate copies (.text "Active"))) } ∧
      first = "Active" := by
  have declared : Sample.stateColumn ∈ Sample.tasks.columns := by simp [Sample.tasks]
  have listed : "Active" ∈ Sample.stateColumn.2.members := by decide
  have itself : IsFirstNamed Sample.stateColumn.2.members "Active" "Active" :=
    ⟨rfl, [], ["ACTIVE"], rfl, by simp⟩
  obtain ⟨first, copies, isFirst, equation, membership, -, first_eq_iff⟩ :=
    equation_agrees_with_membership_iff Sample.tasks_loaded declared rfl listed
      (show Text.upper (Sample.isState "Active").field = "STATE" by decide)
      (show Text.upper (Sample.inState "Active").field = "STATE" by decide) rfl rfl true
  exact ⟨Sample.tasks_loaded, declared, rfl, listed, first, copies, isFirst, equation, membership,
    first_eq_iff.2 itself⟩

end Session
end Service
end RowFilter
