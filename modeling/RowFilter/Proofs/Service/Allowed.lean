import RowFilter.Proofs.Service.Answer

/-!
# Columns that may be selected and columns that fields may name

A column may be selected exactly when a field of its name is resolved, and this
is where some key of the loaded file has its upper-case form.  The field is then
resolved to what the last of these keys declares.
-/

namespace RowFilter
namespace Catalogue

/-! ## Spellings of a column -/

/-- A key that has the upper-case form of a column. -/
def IsSpelling (column : String) (key : Datum) : Prop :=
  ∃ spelled, key = .text spelled ∧ Text.upper spelled = Text.upper column

/-- The last of the entries whose key has the upper-case form of a column. -/
structure IsLastSpelling (entries : List (Datum × Datum)) (column spelled : String)
    (datum : Datum) : Prop where
  /-- The key has the upper-case form. -/
  upper_eq : Text.upper spelled = Text.upper column
  /-- No key after it has the form. -/
  last : ∃ before after, entries = before ++ (.text spelled, datum) :: after ∧
    ∀ entry ∈ after, ¬IsSpelling column entry.1

/-- A document declares an entity, with the given entries for its columns. -/
def DeclaresFrom (document : Datum) (entries : List (Datum × Datum)) (named : Datum × Entity) :
    Prop :=
  ∃ entities entry, document.get? "entities" = some (.map entities) ∧ entry ∈ entities ∧
    DeclaresEntity entry named ∧ entry.2.get? "columns" = some (.map entries)

/-- The name that is declared is that of a column exactly when the key is a spelling of it. -/
theorem DeclaresColumn.name_eq_iff {entry : Datum × Datum} {declared : String × ColumnSpec}
    (declares : DeclaresColumn entry declared) (column : String) :
    declared.1 = Text.upper column ↔ IsSpelling column entry.1 := by
  obtain ⟨name, names, -⟩ := declares
  generalize entry.1 = key, declared.1 = upperName at names
  cases names with
  | text =>
      constructor
      · exact fun same => ⟨name, rfl, same⟩
      · rintro ⟨spelled, ⟨⟩, same⟩
        exact same
  | octets content =>
      refine iff_of_false (fun same => ?_) ?_
      · exact Text.upper_ne_quotedOctets column _ same.symm
      · rintro ⟨spelled, ⟨⟩, -⟩

/-- Under a text the datum declares a column of that name. -/
theorem DeclaresColumn.spec_of_text {spelled : String} {datum : Datum}
    {declared : String × ColumnSpec} (declares : DeclaresColumn (.text spelled, datum) declared) :
    DeclaresSpec spelled datum declared.2 := by
  obtain ⟨name, names, declaresSpec⟩ := declares
  generalize declared.1 = upperName at names
  cases names
  exact declaresSpec

variable {entries : List (Datum × Datum)} {columns declared : Columns} {column : String}

/-- Some column has the name exactly when some entry spells it. -/
theorem exists_column_iff_exists_spelling
    (pairs : List.Forall₂ DeclaresColumn entries declared)
    (assigned : columns.AreAssigned declared) :
    (∃ spec, (Text.upper column, spec) ∈ columns) ↔
      ∃ entry ∈ entries, IsSpelling column entry.1 := by
  have spelled := exists_mem_iff_of_forall₂ pairs
    fun _ _ _ declares => DeclaresColumn.name_eq_iff declares column
  have sameNames : Text.upper column ∈ columns.map Prod.fst ↔
      Text.upper column ∈ declared.map Prod.fst := by
    rw [assigned.names_eq, List.mem_reverse, List.mem_dedup, List.mem_reverse]
  simp only [List.mem_map, Prod.exists, exists_and_right, exists_eq_right] at sameNames
  rw [sameNames, ← spelled]
  simp

/-- A column is what the last entry that spells it declares. -/
theorem exists_lastSpelling_of_mem
    (pairs : List.Forall₂ DeclaresColumn entries declared)
    (assigned : columns.AreAssigned declared)
    {spec : ColumnSpec} (member : (Text.upper column, spec) ∈ columns) :
    ∃ spelled datum, IsLastSpelling entries column spelled datum ∧
      DeclaresSpec spelled datum spec := by
  have found : columns.find? (Text.upper column) = some spec :=
    Columns.find?_of_mem assigned.distinct member
  rw [assigned.find?_eq] at found
  obtain ⟨before, after, reverse_eq, others⟩ := List.lookup_eq_some_iff.1 found
  have declared_eq : declared = after.reverse ++ (Text.upper column, spec) :: before.reverse := by
    rw [← List.reverse_reverse declared, reverse_eq]
    simp
  rw [declared_eq] at pairs
  obtain ⟨first, ⟨key, datum⟩, rest, split, declares, behind⟩ := exists_append_cons_of_forall₂ pairs
  obtain ⟨spelled, rfl, upper_eq⟩ := (declares.name_eq_iff column).1 rfl
  refine ⟨spelled, datum, ⟨upper_eq, first, rest, split, ?_⟩, declares.spec_of_text⟩
  intro entry present
  have unspelled := forall_mem_iff_of_forall₂ behind
    fun entry _ other declaresOther => not_congr (declaresOther.name_eq_iff column)
  refine unspelled.1 (fun named member => ?_) entry present
  have differs := others named (List.mem_reverse.1 member)
  rw [bne_iff_ne] at differs
  exact differs.symm

theorem DeclaresFrom.exists_declared {document : Datum} {named : Datum × Entity}
    (declares : DeclaresFrom document entries named) :
    ∃ declared, List.Forall₂ DeclaresColumn entries declared ∧
      named.2.columns.AreAssigned declared := by
  obtain ⟨_, entry, -, -, declaresEntity, found⟩ := declares
  obtain ⟨others, declared, found', pairs, assigned⟩ := declaresEntity.columns
  rw [found, Option.some.injEq, Datum.map.injEq] at found'
  subst found'
  exact ⟨declared, pairs, assigned⟩

theorem Declares.exists_declaresFrom {document : Datum} {catalogue : Catalogue}
    (declares : Declares document catalogue) {named : Datum × Entity} (member : named ∈ catalogue) :
    ∃ entries, DeclaresFrom document entries named := by
  obtain ⟨entities, found, pairs⟩ := declares
  obtain ⟨entry, present, declaresEntity⟩ := exists_mem_of_forall₂ pairs member
  obtain ⟨entries, _, under, -⟩ := declaresEntity.columns
  exact ⟨entries, entities, entry, found, present, declaresEntity, under⟩

end Catalogue

namespace Service

open Catalogue (DeclaresFrom DeclaresSpec IsSpelling IsLastSpelling)

/-! ## The last load -/

/-- The file of the last load that succeeded declares an entity, with the given entries. -/
def LastDeclares (path : String) (steps : List Step) (entries : List (Datum × Datum))
    (named : Datum × Entity) : Prop :=
  ∃ place catalogue text document,
    LoadsAt path steps place catalogue ∧
    (∀ later other, LoadsAt path steps later other → later ≤ place) ∧
    contentAfter (steps.take place) = some text ∧
    Catalogue.readDatum (Document.formatOf path) text = .ok document ∧
    DeclaresFrom document entries named

/-- Every entity that is loaded is declared by the file of the last load. -/
theorem LastLoaded.exists_lastDeclares
    {path : String} {steps : List Step} {catalogue : Catalogue}
    (lastLoaded : LastLoaded path steps catalogue)
    {named : Datum × Entity} (loaded : named ∈ catalogue) :
    ∃ entries, LastDeclares path steps entries named := by
  cases lastLoaded with
  | never => exact absurd loaded List.not_mem_nil
  | loaded place loads last =>
      obtain ⟨text, content, document, documentRead, -, declares⟩ := loads.2
      obtain ⟨entries, declaresFrom⟩ := declares.exists_declaresFrom loaded
      exact ⟨entries, place, catalogue, text, document, loads, last, content, documentRead,
        declaresFrom⟩

/-! ## One column -/

/-- A column may be selected when the entity has it in upper case. -/
theorem disallowedColumn?_singleton_eq_none_iff
    {entity : Entity} {column : String} (other : column ≠ "*") :
    disallowedColumn? entity [column] = none ↔
      ∃ spec, (Text.upper column, spec) ∈ entity.columns := by
  rw [disallowedColumn?_eq_none_iff, List.forall_mem_singleton, IsAllowed, or_iff_right other]

/-- A field is resolved when the entity has a column of its upper case. -/
theorem exists_resolved_iff
    {entity : Entity} (distinct : entity.HasDistinctColumns) (quote : Bool) (column : String) :
    (∃ expr, Sql.resolver entity.fieldColumns quote column = .ok expr) ↔
      ∃ spec, (Text.upper column, spec) ∈ entity.columns := by
  simp only [(entity.described_resolver distinct quote column).eq_ok_iff]
  constructor
  · rintro ⟨_, spec, member, -⟩
    exact ⟨spec, member⟩
  · rintro ⟨spec, member⟩
    exact ⟨_, spec, member, rfl⟩

namespace Session

variable {path : Option String} {steps : List Step}

/--
A column of an entity that is loaded may be selected exactly when it is resolved
as a field, and exactly when the loaded file declares a column of its upper-case
form.  It is then resolved to a column of this form, with the type, the name and
the members that the last such declaration gives.
-/
theorem allowed_iff_resolved
    {named : Datum × Entity} (loaded : named ∈ (after path steps).catalogue) :
    ∃ entries, LastDeclares (start path).path steps entries named ∧
      ∀ (column : String) (quote : Bool), column ≠ "*" →
        (disallowedColumn? named.2 [column] = none ↔
          ∃ expr, Sql.resolver named.2.fieldColumns quote column = .ok expr) ∧
        ((∃ expr, Sql.resolver named.2.fieldColumns quote column = .ok expr) ↔
          ∃ entry ∈ entries, IsSpelling column entry.1) ∧
        ∀ expr, Sql.resolver named.2.fieldColumns quote column = .ok expr →
          ∃ spelled datum spec, IsLastSpelling entries column spelled datum ∧
            DeclaresSpec spelled datum spec ∧
            expr = { name := Text.upper column, spec, quote } := by
  obtain ⟨entries, lastDeclares⟩ := (lastLoaded_after path steps).exists_lastDeclares loaded
  refine ⟨entries, lastDeclares, fun column quote other => ?_⟩
  obtain ⟨_, _, _, _, -, -, -, -, declaresFrom⟩ := lastDeclares
  obtain ⟨declared, pairs, assigned⟩ := declaresFrom.exists_declared
  have distinct : named.2.HasDistinctColumns := assigned.distinct
  have resolved := exists_resolved_iff distinct quote column
  refine ⟨?_, ?_, fun expr given => ?_⟩
  · rw [disallowedColumn?_singleton_eq_none_iff other, resolved]
  · rw [resolved]
    exact Catalogue.exists_column_iff_exists_spelling pairs assigned
  · obtain ⟨spec, member, expr_eq⟩ :=
      ((named.2.described_resolver distinct quote column).eq_ok_iff expr).1 given
    obtain ⟨spelled, datum, last, declaresSpec⟩ :=
      Catalogue.exists_lastSpelling_of_mem pairs assigned member
    exact ⟨spelled, datum, spec, last, declaresSpec, expr_eq⟩

/-! ### Two spellings of a column, of different lengths -/

namespace Sample

/-- A file with one view, two of whose columns are spellings of one name. -/
def streetFile : String :=
  "\x7b\"entities\": \x7b\"streets\": \x7b\"view\": \"streets\", \"columns\": " ++
    "\x7b\"straße\": \"NUMBER\", \"Strasse\": \"TEXT\"\x7d\x7d\x7d\x7d"

/-- The session that has loaded the file. -/
def streetSession : Session :=
  after (some "streets.json") [.write streetFile, .load]

/-- The view of the streets: the later column has displaced the earlier one. -/
def streets : Entity :=
  { view := "streets", columns := [("STRASSE", { type := .text })] }

theorem streets_loaded : (.text "streets", streets) ∈ streetSession.catalogue := by
  have found : streetSession.catalogue.find? "streets" = some streets := by decide +kernel
  exact Catalogue.mem_of_find? found

end Sample

/--
Two spellings with the same upper case: either may be selected and filtered, and
both stand for the column that was declared last.
-/
theorem allowed_iff_resolved_displaced :
    (.text "streets", Sample.streets) ∈ Sample.streetSession.catalogue ∧
    Sql.resolver Sample.streets.fieldColumns false "straße" =
      .ok { name := "STRASSE", spec := { type := .text }, quote := false } ∧
    disallowedColumn? Sample.streets ["straße"] = none ∧
    ∃ entries,
      LastDeclares (start (some "streets.json")).path [.write Sample.streetFile, .load] entries
        (.text "streets", Sample.streets) ∧
      (∃ entry ∈ entries, IsSpelling "straße" entry.1) ∧
      ∃ spelled datum, IsLastSpelling entries "straße" spelled datum ∧
        DeclaresSpec spelled datum { type := .text } := by
  have resolved : Sql.resolver Sample.streets.fieldColumns false "straße" =
      .ok { name := "STRASSE", spec := { type := .text }, quote := false } := by
    decide
  obtain ⟨entries, lastDeclares, agree⟩ := allowed_iff_resolved Sample.streets_loaded
  obtain ⟨allowed_iff, resolved_iff, last⟩ := agree "straße" false (by decide)
  obtain ⟨spelled, datum, spec, isLast, declaresSpec, expr_eq⟩ := last _ resolved
  cases expr_eq
  exact ⟨Sample.streets_loaded, resolved, allowed_iff.2 ⟨_, resolved⟩, entries, lastDeclares,
    resolved_iff.1 ⟨_, resolved⟩, spelled, datum, isLast, declaresSpec⟩

end Session
end Service
end RowFilter
