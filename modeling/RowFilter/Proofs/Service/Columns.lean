import RowFilter.Proofs.Service.Echo
import RowFilter.Proofs.Sql.Scan

/-!
# What a select list names

A condition names a column by its name in upper case.  A select list names the
columns of a query as they are asked for, and a quoted identifier stands for
itself alone, so it stands for a column only where it is in upper case.
-/

namespace RowFilter

/-! ## Identifiers and columns -/

/-- The column that an identifier stands for: a bare one is put in upper case. -/
def Sql.Identifier.columnName : Identifier → String
  | bare name => Text.upper name
  | quoted name => name

namespace Entity

variable {entity : Entity} {quote : Bool}

/-- An identifier stands for a column that fields may name. -/
def Denotes (entity : Entity) (identifier : Sql.Identifier) : Prop :=
  ∃ spec, (identifier.columnName, spec) ∈ entity.fieldColumns

/-- A name, in any case, of a column that stands for it as it is written. -/
def NamesAsWritten (entity : Entity) (quote : Bool) (name : String) : Prop :=
  (∃ spec, (Text.upper name, spec) ∈ entity.columns) ∧
    (quote = false ∧ Sql.isBareName name = true ∨ Text.upper name = name)

/-- An identifier denotes a column when it names one as it is written. -/
theorem denotes_ofName_iff (name : String) :
    entity.Denotes (.ofName quote name) ↔ entity.NamesAsWritten quote name := by
  simp only [Denotes, NamesAsWritten, mem_fieldColumns_iff]
  rw [Sql.Identifier.ofName_eq]
  split
  · next bare =>
      simp only [Sql.Identifier.columnName, Text.upper_upper, and_true, bare, true_or]
  · next quoted =>
      simp only [Sql.Identifier.columnName, quoted, false_or]
      constructor
      · rintro ⟨spec, member, fixed⟩
        exact ⟨⟨spec, by rwa [fixed]⟩, fixed⟩
      · rintro ⟨⟨spec, member⟩, fixed⟩
        exact ⟨spec, by rwa [fixed] at member, fixed⟩

/-- What a condition writes for a field stands for a column. -/
theorem denotes_of_resolver (distinct : entity.HasDistinctColumns) {field : String}
    {column : Sql.ColumnExpr}
    (resolved : Sql.resolver entity.fieldColumns quote field = .ok column) :
    entity.Denotes column.identifier := by
  obtain ⟨spec, declared, rfl⟩ :=
    ((entity.described_resolver distinct quote field).eq_ok_iff _).1 resolved
  refine (denotes_ofName_iff _).2 ⟨⟨spec, ?_⟩, .inr (Text.upper_upper field)⟩
  rwa [Text.upper_upper]

/-! ## Columns that are asked for -/

/-- Every name between the points of a column that is asked for is one as it is written. -/
def Spells (entity : Entity) (quote : Bool) (column : String) : Prop :=
  Text.strip column = "*" ∨
    ∀ part ∈ Sql.dottedParts (Text.strip column), entity.NamesAsWritten quote part

/-- The item of a column denotes columns exactly when the column is spelled as they are. -/
theorem denotes_ofColumn_iff (column : String) :
    (∀ identifier ∈ (Sql.SelectItem.ofColumn quote column).identifiers,
      entity.Denotes identifier) ↔ entity.Spells quote column := by
  rw [Sql.SelectItem.ofColumn, Spells]
  split
  · next all => simp [Sql.SelectItem.identifiers, all]
  · next other =>
      simp [Sql.SelectItem.identifiers, Sql.dottedIdentifiers, denotes_ofName_iff, other]

/-- The items of a select list denote columns exactly when each column is spelled as they are. -/
theorem denotes_selectItems_iff (columns : List String) :
    (∀ item ∈ Sql.selectItems quote columns, ∀ identifier ∈ item.identifiers,
      entity.Denotes identifier) ↔ ∀ column ∈ columns, entity.Spells quote column := by
  rw [Sql.selectItems]
  split
  · next none =>
      rw [List.isEmpty_iff.1 none, List.forall_mem_singleton]
      exact iff_of_true (fun _ absent => absurd absent List.not_mem_nil) (by simp)
  · rw [List.forall_mem_map]
    exact forall₂_congr fun column _ => denotes_ofColumn_iff column

/-- One plain name is asked for as it is written when it is bare or in upper case. -/
theorem spells_iff_of_plain
    {column : String} (allowed : Service.IsAllowed entity column) (other : column ≠ "*")
    (stripped : Text.strip column = column) (undotted : '.' ∉ column.toList) :
    entity.Spells quote column ↔
      quote = false ∧ Sql.isBareName column = true ∨ Text.upper column = column := by
  have single : Sql.dottedParts column = [column] := by
    rw [Sql.dottedParts_of_notMem undotted, stripped]
  rw [Spells, stripped, single, List.forall_mem_singleton, or_iff_right other, NamesAsWritten]
  exact and_iff_right (allowed.resolve_left other)

end Entity

namespace Service
namespace Session

variable {path : Option String} {steps : List Step}

/-! ## The select list of an answer -/

/--
The select list of an answer is scanned back as one item for each column that
is asked for.  Its identifiers stand for columns, as those of the condition do,
exactly where each column is asked for as its name is written; for a plain name
this is where it is bare or in upper case.
-/
theorem selected_columns_denote_iff
    {request : QueryRequest} {answer : QueryAnswer}
    (answered : query (after path steps).catalogue request = .ok answer) :
    ∃ entity tail source,
      (after path steps).catalogue.find? request.entity = some entity ∧
      answer.selection.statement.sql =
        "SELECT " ++ (if request.distinct then "DISTINCT " else "") ++ tail ∧
      Sql.scanSelectList tail.toList =
        some (Sql.selectItems request.quote request.columns, " FROM ".toList ++ source) ∧
      (∀ field column, Sql.resolver entity.fieldColumns request.quote field = .ok column →
        entity.Denotes column.identifier) ∧
      ((∀ item ∈ Sql.selectItems request.quote request.columns,
          ∀ identifier ∈ item.identifiers, entity.Denotes identifier) ↔
        ∀ column ∈ request.columns, entity.Spells request.quote column) ∧
      ∀ column ∈ request.columns, column ≠ "*" → Text.strip column = column →
        '.' ∉ column.toList →
        (entity.Spells request.quote column ↔
          request.quote = false ∧ Sql.isBareName column = true ∨ Text.upper column = column) := by
  obtain ⟨parsed, entity, -, loaded, allowed, selected, -⟩ := query_eq_ok_iff.1 answered
  obtain ⟨predicate?, style, -, -, statement⟩ := Sql.exists_compiled_of_select selected
  have distinct :=
    ((lastLoaded_after path steps).isWellFormed _ (Catalogue.mem_of_find? loaded)).2
  generalize source_eq : Sql.dottedText request.quote entity.view ++
    (Sql.restriction style predicate?).sql = source
  refine ⟨entity, Sql.selectList request.quote request.columns ++ " FROM " ++ source,
    source.toList, loaded, ?_, ?_, fun _ _ => Entity.denotes_of_resolver distinct,
    Entity.denotes_selectItems_iff request.columns, ?_⟩
  · rw [statement, ← source_eq]
    simp only [Sql.Clause.after, Sql.SelectOptions.head, String.append_assoc]
    rfl
  · rw [String.append_assoc, String.toList_append, String.toList_append]
    refine Sql.scanSelectList_selectList _ _ ⟨?_, rfl⟩ rfl
    rintro next ⟨⟩
    decide
  · intro column asked other stripped undotted
    exact Entity.spells_iff_of_plain (allowed column asked) other stripped undotted

/-! ### A quoted name in lower case -/

namespace Sample

/-- A file with one view, whose column is declared in lower case. -/
def staffFile : String :=
  "\x7b\"entities\": \x7b\"staff\": \x7b\"view\": \"staff\", \"columns\": " ++
    "\x7b\"age\": \"NUMBER\"\x7d\x7d\x7d\x7d"

/-- The session that has loaded the file. -/
def staffSession : Session :=
  after (some "staff.json") [.write staffFile, .load]

/-- The view of the staff. -/
def staff : Entity :=
  { view := "staff", columns := [("AGE", { type := .number })] }

/-- A query for columns of the older staff, with quotes. -/
def olderStaff (columns : List String) : QueryRequest :=
  { entity := "staff", filters := [some "age;GT;60;INT"], columns, quote := true }

theorem find?_staff : staffSession.catalogue.find? "staff" = some staff := by
  decide +kernel

/-- A query for the older staff is answered as if there were no other view. -/
theorem exists_answer {columns : List String} {sql : String}
    (given : (query [(.text "staff", staff)] (olderStaff columns)).toOption.map
      (·.selection.statement.sql) = some sql) :
    ∃ answer, query staffSession.catalogue (olderStaff columns) = .ok answer ∧
      answer.selection.statement.sql = sql := by
  have same : query staffSession.catalogue (olderStaff columns) =
      query [(.text "staff", staff)] (olderStaff columns) := by
    have found : staffSession.catalogue.find? (olderStaff columns).entity =
        Catalogue.find? [(.text "staff", staff)] (olderStaff columns).entity := find?_staff
    simp only [query, answerQuery, found]
  obtain ⟨answer, kept, written⟩ := Option.map_eq_some_iff.1 given
  rw [same]
  cases answered : query [(.text "staff", staff)] (olderStaff columns) with
  | error rejection => simp [answered, Except.toOption] at kept
  | ok other =>
      refine ⟨other, rfl, ?_⟩
      rw [answered, Except.toOption, Option.some.injEq] at kept
      rw [kept, written]

end Sample

/-- A column may be asked for in lower case, and between quotes that is the name of no column. -/
theorem selected_columns_denote_lower_case :
    Sample.staffSession.catalogue.find? "staff" = some Sample.staff ∧
    (∃ answer, query Sample.staffSession.catalogue (Sample.olderStaff ["age"]) = .ok answer ∧
      answer.selection.statement.sql =
        "SELECT \"age\" FROM \"staff\" WHERE \"AGE\" > %(p1)s") ∧
    Sql.scanSelectList "\"age\" FROM \"staff\" WHERE \"AGE\" > %(p1)s".toList =
      some ([.column [.quoted "age"]], " FROM \"staff\" WHERE \"AGE\" > %(p1)s".toList) ∧
    ¬Sample.staff.Denotes (.quoted "age") ∧ Sample.staff.Denotes (.quoted "AGE") := by
  refine ⟨Sample.find?_staff, Sample.exists_answer (by decide +kernel), ?_, ?_, ?_⟩
  · exact @Sql.scanSelectList_selectList true ["age"] _
      ⟨by rintro next ⟨⟩; decide, by decide⟩ (by decide)
  · rintro ⟨spec, member⟩
    have fixed : Text.upper "age" = "age" := (Entity.mem_fieldColumns_iff.1 member).2
    exact absurd fixed (by decide)
  · exact ⟨_, Entity.mem_fieldColumns_iff.2 ⟨List.mem_cons_self, by decide⟩⟩

/-- The same column in upper case, and all of them. -/
theorem selected_columns_denote_iff_upper_case :
    ∃ answer,
      query Sample.staffSession.catalogue (Sample.olderStaff ["*", "AGE"]) = .ok answer ∧
      ∃ entity,
        Sample.staffSession.catalogue.find? "staff" = some entity ∧
        ∀ item ∈ Sql.selectItems true ["*", "AGE"],
          ∀ identifier ∈ item.identifiers, entity.Denotes identifier := by
  obtain ⟨answer, answered, -⟩ := @Sample.exists_answer ["*", "AGE"]
    "SELECT *, \"AGE\" FROM \"staff\" WHERE \"AGE\" > %(p1)s" (by decide +kernel)
  obtain ⟨entity, -, -, loaded, -, -, -, denote_iff, plain⟩ := selected_columns_denote_iff answered
  refine ⟨answer, answered, entity, loaded, denote_iff.2 ?_⟩
  rw [show (Sample.olderStaff ["*", "AGE"]).columns = ["*", "AGE"] from rfl] at plain ⊢
  rw [List.forall_mem_cons, List.forall_mem_singleton]
  refine ⟨.inl (by decide), ?_⟩
  exact (plain "AGE" (by simp) (by decide) (by decide) (by decide)).2 (.inr (by decide))

end Session
end Service
end RowFilter
