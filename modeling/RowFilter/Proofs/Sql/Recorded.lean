import RowFilter.Proofs.Query.Assigned
import RowFilter.Proofs.Query.Translation
import RowFilter.Proofs.Sql.Shape
import RowFilter.Query.Tree

/-!
# Recorded trees as SQL

The free backend records how a predicate was built.  Its trees are translated
leaf by leaf into SQL, and the predicate of filters over SQL is the translation
of the tree that is recorded for them.
-/

namespace RowFilter
namespace Sql

/-! ## The translation of trees -/

/-- The SQL condition that a tree records: each leaf by itself, joined as the tree says. -/
def ofTree (quote : Bool) : Tree → Predicate
  | .compare field comparison value =>
      .atom (.compare (.ofName quote field) comparison value)
  | .among _ [] => .atom .never
  | .among field (first :: others) => .atom (.among (.ofName quote field) first others)
  | .like field pattern => .atom (.like (.ofName quote field) (.text pattern))
  | .both left right => (ofTree quote left).join .and (ofTree quote right)
  | .either left right => (ofTree quote left).join .or (ofTree quote right)

/-- A recorded field as a column of a statement. -/
def columnOf (quote : Bool) (field : Tree.Field) : ColumnExpr where
  name := field.name
  spec := field.spec
  quote := quote

/-- Trees and their fields are carried over to SQL. -/
def treeTranslation (quote : Bool) : Translation Tree.backend backend where
  expression := columnOf quote
  predicate := ofTree quote
  column_eq _ := rfl
  compare_eq _ _ _ := rfl
  among_eq _ values := by cases values <;> rfl
  like_eq _ _ := rfl
  both_eq _ _ := rfl
  either_eq _ _ := rfl

/-! ## Resolving declared fields -/

variable {columns : Columns} {quote : Bool}

/-- A declared field is resolved to its column, however it is looked up. -/
theorem resolves_of_declared
    (distinct : (columns.map Prod.fst).Nodup)
    (upperCase : ∀ entry ∈ columns, Text.upper entry.1 = entry.1)
    {filter : Filter} (declared : filter.field ∈ columns.map Prod.fst) :
    (treeTranslation quote).Resolves (Tree.resolver columns) (resolver columns quote) filter := by
  obtain ⟨⟨name, spec⟩, member, named⟩ := List.mem_map.1 declared
  replace named : name = filter.field := named
  subst named
  have upper_eq : Text.upper filter.field = filter.field :=
    upperCase (filter.field, spec) member
  have found : columns.find? filter.field = some spec := Columns.find?_of_mem distinct member
  rw [Translation.Resolves, resolver, Tree.resolver, upper_eq,
    Columns.upperNames_eq_self distinct upperCase, found]
  rfl

/--
Over columns with distinct names in upper case and filters of declared fields,
the run over SQL and the recorded run fail with the same error, or the
predicate of one is the translation of the tree of the other.  They resolve the
same fields and give the same warnings in the same order.
-/
theorem compile_eq_ofTree_compile
    {columns : Columns}
    (quote : Bool)
    (distinct : (columns.map Prod.fst).Nodup)
    (upperCase : ∀ entry ∈ columns, Text.upper entry.1 = entry.1)
    {filters : List Filter}
    (declared : ∀ filter ∈ filters, filter.field ∈ columns.map Prod.fst) :
    ((∃ error,
      (compile Tree.backend (Tree.resolver columns) filters).outcome = .error error ∧
      (compile backend (resolver columns quote) filters).outcome = .error error) ∨
    ∃ tree?,
      (compile Tree.backend (Tree.resolver columns) filters).outcome = .ok tree? ∧
      (compile backend (resolver columns quote) filters).outcome =
        .ok (tree?.map (ofTree quote))) ∧
    (compile backend (resolver columns quote) filters).warnings =
      (compile Tree.backend (Tree.resolver columns) filters).warnings ∧
    (compile backend (resolver columns quote) filters).calls =
      (compile Tree.backend (Tree.resolver columns) filters).calls := by
  have image : compile backend (resolver columns quote) filters =
      (compile Tree.backend (Tree.resolver columns) filters).map (Option.map (ofTree quote)) :=
    Translation.compile_eq fun filter member =>
      resolves_of_declared distinct upperCase (declared filter member)
  rw [image, Compilation.warnings_map, Compilation.calls_map, Compilation.outcome_map]
  refine ⟨?_, rfl, rfl⟩
  cases (compile Tree.backend (Tree.resolver columns) filters).outcome with
  | error error => exact Or.inl ⟨error, rfl, rfl⟩
  | ok tree? => exact Or.inr ⟨tree?, rfl, rfl⟩

/-! ### Strangers, a date-time on a date and a search -/

namespace Sample

/-- Tasks with a state, a day and a name, all named in upper case. -/
def plan : Columns :=
  [("STATE", { type := .enumeration, members := ["Open", "Done"] }), ("DUE", { type := .date }),
    ("NAME", { type := .text })]

/-- A state among strangers alone. -/
def lostOrGone : Filter :=
  (inStates ["Lost", "Gone"]).rename "STATE" (by decide)

/-- Noon of a day. -/
def leapNoon : DateTime where
  date := { year := 2024, month := 2, day := 29, exists_day := by decide }
  hour := 12
  minute := 0
  second := 0
  microsecond := 0
  exists_time := by decide

/-- A day that is compared with a date-time. -/
def dueByNoon : Filter where
  field := "DUE"
  kind := .dateTime
  condition := .test (.compare .le) (.dateTime leapNoon)
  field_ne_empty := by decide
  kind_of_mem := by simp [Condition.items, Value.kind]

/-- A search, a state that no task has, and a day. -/
def nothingDue : List Filter :=
  [RowFilter.Sample.searchName.rename "NAME" (by decide), lostOrGone, dueByNoon]

/-- What is recorded for these filters. -/
def nothingDueTree : Tree :=
  .both (.both (.among "STATE" []) (.compare "DUE" .le (.date leapNoon.date)))
    (.like "NAME" "%ANN%")

end Sample

/-- A membership among no values is a condition that no row meets. -/
example :
    ((ofTree false Sample.nothingDueTree).render { style := .question }).1 =
      "1=0 AND DUE <= ? AND UPPER(NAME) LIKE ? ESCAPE '\\'" := by
  rfl

/--
A membership among strangers alone, a search and a day compared with a
date-time: the SQL predicate is the image of the recorded tree, and both runs
give the same warning.
-/
theorem compile_eq_ofTree_compile_strangers :
    (Sample.plan.map Prod.fst).Nodup ∧
    (∀ entry ∈ Sample.plan, Text.upper entry.1 = entry.1) ∧
    (∀ filter ∈ Sample.nothingDue, filter.field ∈ Sample.plan.map Prod.fst) ∧
    (compile Tree.backend (Tree.resolver Sample.plan) Sample.nothingDue).outcome =
      .ok (some Sample.nothingDueTree) ∧
    (compile backend (resolver Sample.plan false) Sample.nothingDue).outcome =
      .ok (some (ofTree false Sample.nothingDueTree)) ∧
    (compile backend (resolver Sample.plan false) Sample.nothingDue).warnings =
      (compile Tree.backend (Tree.resolver Sample.plan) Sample.nothingDue).warnings := by
  have distinct : (Sample.plan.map Prod.fst).Nodup := by decide
  have upperCase : ∀ entry ∈ Sample.plan, Text.upper entry.1 = entry.1 := by decide
  have declared : ∀ filter ∈ Sample.nothingDue, filter.field ∈ Sample.plan.map Prod.fst := by
    decide
  have recorded : (compile Tree.backend (Tree.resolver Sample.plan) Sample.nothingDue).outcome =
      .ok (some Sample.nothingDueTree) := rfl
  obtain ⟨outcomes, warnings, -⟩ :=
    compile_eq_ofTree_compile false distinct upperCase declared
  refine ⟨distinct, upperCase, declared, recorded, ?_, warnings⟩
  rcases outcomes with ⟨error, failed, -⟩ | ⟨tree?, same, image⟩
  · rw [recorded] at failed
    cases failed
  · rw [recorded, Except.ok.injEq] at same
    rw [image, ← same]
    rfl

end Sql
end RowFilter
