import RowFilter.Proofs.Query.Members
import RowFilter.Proofs.Sql.Meaning

/-!
# Memberships on enumerations

A membership on an enumeration is compiled to one among the members that its
values name.  On rows that hold members nothing is lost by that: it is true of
a member exactly when the member is named.
-/

namespace RowFilter

/-- A database that compares values by what they are. -/
def Database.exact : Database where
  compares _ left right := decide (left = right)
  textOf := Value.plain

variable {Expression Predicate : Type}

/--
A membership on an enumeration, over any backend, is one among the members that
its values name, as they are declared.  Where the predicate is true of the
listed values, it is true of a declared member exactly when some value names
the member.  There is a warning exactly when some value names no member, and
it reports these values.  Where no member is named the SQL condition is one
that no row meets, and it binds nothing.
-/
theorem membership_keeps_named_members
    (backend : Backend Expression Predicate)
    (resolve : Resolver Expression)
    {filter : Filter} {items : List Value}
    (asks : filter.condition = .among items)
    {expression : Expression}
    (resolved : resolve filter.field = .ok expression)
    (enumeration : (backend.column expression).isEnumeration = true) :
    ∃ kept warning?,
      compileFilter backend resolve filter =
        .ok { predicate := backend.among expression (kept.map .text), warning := warning? } ∧
      (∀ others, KeepsNamed (backend.column expression).members items others ↔ others = kept) ∧
      (∀ (holds : Predicate → Prop) (member : String),
        member ∈ (backend.column expression).members →
        (∀ values, holds (backend.among expression values) ↔ .text member ∈ values) →
          (holds (backend.among expression (kept.map .text)) ↔ IsNamed items member)) ∧
      (warning? = none ↔ ∀ item ∈ items, item.plain ∈ (backend.column expression).members) ∧
      (∀ warning, warning? = some warning →
        warning.Reports filter.field (backend.column expression) items) ∧
      ((∀ member ∈ (backend.column expression).members, ¬IsNamed items member) →
        ∀ (column : Sql.ColumnExpr) (sink : Sql.Sink),
          (Sql.backend.among column (kept.map .text)).render sink = ("1=0", sink)) := by
  have keeps := keepsNamed_namedMembers (backend.column expression).members items
  refine ⟨_, _, compileFilter_of_among asks resolved enumeration, fun _ => keepsNamed_iff, ?_,
    membershipWarning?_eq_none_iff, fun _ => reports_of_membershipWarning?, ?_⟩
  · intro holds member declared among
    have listed {texts : List String} : Value.text member ∈ texts.map .text ↔ member ∈ texts :=
      List.mem_map_of_injective fun _ _ equal => Value.text.inj equal
    rw [among, listed, keeps.mem_iff, and_iff_right declared]
  · intro unnamed column sink
    rw [keeps.eq_nil_iff.2 unnamed]
    rfl

/-! ### A phase that is declared twice and one in two spellings -/

namespace Sample

/-- The phases of an order. -/
def phase : ColumnSpec :=
  { type := .enumeration, members := ["Open", "Done", "open", "Done"] }

/-- The column of the phases. -/
def phaseColumn : Sql.ColumnExpr :=
  { name := "PHASE", spec := phase, quote := false }

/-- Two phases in another order, among strangers, one of them given twice. -/
def phaseTexts : List Value :=
  [.text "open", .text "lost", .text "Done", .text "Lost", .text "lost"]

/-- The orders in one of these phases. -/
def inPhases : Filter where
  field := "phase"
  kind := .text
  condition := .among phaseTexts
  field_ne_empty := by decide
  kind_of_mem := by simp [Condition.items, phaseTexts, Value.kind]

end Sample

/--
Members that are declared twice are kept twice, in the order of their
declaration, and strangers that are given twice are reported once.
-/
theorem membership_keeps_named_members_repeated :
    Sample.inPhases.condition = .among Sample.phaseTexts ∧
    Sql.resolver [("Phase", Sample.phase)] false "phase" = .ok Sample.phaseColumn ∧
    Sample.phase.isEnumeration = true ∧
    ∃ kept warning?,
      compileFilter Sql.backend (Sql.resolver [("Phase", Sample.phase)] false) Sample.inPhases =
        .ok {
          predicate := Sql.backend.among Sample.phaseColumn (kept.map .text)
          warning := warning? } ∧
      kept = ["Done", "open", "Done"] ∧
      ((Sql.backend.among Sample.phaseColumn (kept.map .text)).eval
          (Sql.Atom.truth Database.exact fun _ => .text "Open") = true ↔
        IsNamed Sample.phaseTexts "Open") ∧
      ∃ warning, warning? = some warning ∧
        warning.Reports "phase" Sample.phase Sample.phaseTexts := by
  have asks : Sample.inPhases.condition = .among Sample.phaseTexts := rfl
  have resolved : Sql.resolver [("Phase", Sample.phase)] false "phase" =
      .ok Sample.phaseColumn := rfl
  have enumeration : (Sql.backend.column Sample.phaseColumn).isEnumeration = true := rfl
  obtain ⟨kept, warning?, compiled, keeps, meaning, silent, reports, -⟩ :=
    membership_keeps_named_members Sql.backend (Sql.resolver [("Phase", Sample.phase)] false)
      asks resolved enumeration
  refine ⟨asks, resolved, enumeration, kept, warning?, compiled, ?_, ?_, ?_⟩
  · exact ((keeps _).1 (keepsNamed_namedMembers _ _)).symm
  · refine meaning (fun predicate => predicate.eval (Sql.Atom.truth Database.exact fun _ =>
      .text "Open") = true) "Open" (by decide) fun values => ?_
    simp [Sql.backend, Sql.Atom.truth_ofValues, Database.exact]
  · cases warning? with
    | none => exact absurd (silent.1 rfl (.text "lost") (by decide)) (by decide)
    | some warning => exact ⟨warning, rfl, reports warning rfl⟩

end RowFilter
