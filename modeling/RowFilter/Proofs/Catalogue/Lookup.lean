import RowFilter.Proofs.Catalogue.Normal
import RowFilter.Proofs.Query.Row
import RowFilter.Sql.Statement

/-!
# Looking up entities and columns

The columns of a declared entity have distinct names, so the column of a field
is the one whose name is the upper-case form of the field, however it is looked
up.
-/

namespace RowFilter

/-- Nothing is found under a name exactly when no column has it. -/
theorem Columns.find?_eq_none_iff {columns : Columns} {name : String} :
    columns.find? name = none ↔ ∀ spec, (name, spec) ∉ columns := by
  rw [find?, List.lookup_eq_none_iff]
  simp only [bne_iff_ne]
  constructor
  · intro different spec member
    exact different _ member rfl
  · rintro absent column member rfl
    exact absent column.2 member

namespace Entity

variable {entity : Entity} {field : String} {spec : ColumnSpec}

/-- The names of the columns are distinct. -/
def HasDistinctColumns (entity : Entity) : Prop :=
  (entity.columns.map Prod.fst).Nodup

/-- Under one name there is one column. -/
theorem HasDistinctColumns.unique
    (distinct : entity.HasDistinctColumns)
    {name : String} {other : ColumnSpec}
    (member : (name, spec) ∈ entity.columns) (member' : (name, other) ∈ entity.columns) :
    spec = other := by
  have found := Columns.find?_of_mem distinct member
  rw [Columns.find?_of_mem distinct member'] at found
  exact (Option.some.inj found).symm

/-- Fields may name the columns of an entity that are named in upper case. -/
theorem mem_fieldColumns_iff {column : String × ColumnSpec} :
    column ∈ entity.fieldColumns ↔ column ∈ entity.columns ∧ Text.upper column.1 = column.1 := by
  simp [fieldColumns]

/-- Fields name all columns but those that are named by octets. -/
theorem IsNormal.mem_fieldColumns_iff (normal : entity.IsNormal) {column : String × ColumnSpec} :
    column ∈ entity.fieldColumns ↔
      column ∈ entity.columns ∧ ∀ octets, column.1 ≠ Text.quotedOctets octets := by
  rw [Entity.mem_fieldColumns_iff]
  refine and_congr_right fun member => ⟨?_, fun notOctets => ?_⟩
  · rintro fixed octets same
    exact Text.upper_ne_quotedOctets column.1 octets (fixed.trans same)
  · generalize name_eq : column.1 = name at notOctets
    have upperName := name_eq ▸ normal.upperNames column member
    cases upperName with
    | text fixed => exact fixed
    | octets => exact absurd rfl (notOctets _)

/-- A field names the column that has its upper-case form as its name. -/
theorem lastDeclared?_fieldColumns_eq_some_iff (distinct : entity.HasDistinctColumns) :
    entity.fieldColumns.lastDeclared? (Text.upper field) = some spec ↔
      (Text.upper field, spec) ∈ entity.columns := by
  have declared {column : String × ColumnSpec}
      (found : entity.fieldColumns.reverse.find?
        (fun entry => Text.upper entry.1 == Text.upper field) = some column) :
      (Text.upper field, column.2) ∈ entity.columns := by
    have named := List.find?_some found
    rw [beq_iff_eq] at named
    obtain ⟨member, fixed⟩ :=
      mem_fieldColumns_iff.1 (List.mem_reverse.1 (List.mem_of_find?_eq_some found))
    rwa [← named, fixed]
  rw [Columns.lastDeclared?, Option.map_eq_some_iff]
  constructor
  · rintro ⟨column, found, rfl⟩
    exact declared found
  · intro member
    cases found : entity.fieldColumns.reverse.find?
      (fun entry => Text.upper entry.1 == Text.upper field) with
    | some column => exact ⟨column, rfl, distinct.unique (declared found) member⟩
    | none =>
        have present : (Text.upper field, spec) ∈ entity.fieldColumns.reverse := by
          rw [List.mem_reverse, mem_fieldColumns_iff]
          exact ⟨member, Text.upper_upper field⟩
        have differs := List.find?_eq_none.1 found _ present
        simp only [Text.upper_upper, beq_self_eq_true, not_true_eq_false] at differs

/-- The field of a filter is resolved to its column, or there is no such column. -/
theorem described_resolver (distinct : entity.HasDistinctColumns) (quote : Bool) (field : String) :
    Described (Sql.resolver entity.fieldColumns quote field)
      (fun column => ∃ spec, (Text.upper field, spec) ∈ entity.columns ∧
        column = { name := Text.upper field, spec, quote })
      (fun error => (∀ spec, (Text.upper field, spec) ∉ entity.columns) ∧
        error = .unknownField field) := by
  simp only [← lastDeclared?_fieldColumns_eq_some_iff distinct, ← Columns.find?_upperNames]
  cases found : entity.fieldColumns.upperNames.find? (Text.upper field) <;> constructor <;>
    simp [Sql.resolver, found, eq_comm]

end Entity

namespace Catalogue

variable {catalogue : Catalogue} {name : String}

/-- An entity that is found is in the catalogue under its name. -/
theorem mem_of_find? {entity : Entity} (found : catalogue.find? name = some entity) :
    (Datum.text name, entity) ∈ catalogue := by
  induction catalogue using find?.induct name with
  | case1 => cases found
  | case2 first others =>
      rw [find?, if_pos rfl, Option.some.injEq] at found
      rw [found]
      exact List.mem_cons_self
  | case3 present first others different inductionHypothesis =>
      rw [find?, if_neg different] at found
      exact List.mem_cons_of_mem _ (inductionHypothesis found)
  | case4 named others notText inductionHypothesis =>
      rw [find?.eq_3 name named others notText] at found
      exact List.mem_cons_of_mem _ (inductionHypothesis found)

/-- An entity is not found when no entity has its name. -/
theorem find?_eq_none_iff :
    catalogue.find? name = none ↔ ∀ entity, (Datum.text name, entity) ∉ catalogue := by
  induction catalogue using find?.induct name with
  | case1 => simp [find?]
  | case2 first others =>
      rw [find?, if_pos rfl]
      exact iff_of_false (Option.some_ne_none first) fun absent => absent first List.mem_cons_self
  | case3 present first others different inductionHypothesis =>
      simp [find?, different, Ne.symm different, inductionHypothesis]
  | case4 named others notText inductionHypothesis =>
      rw [find?.eq_3 name named others notText, inductionHypothesis]
      refine forall_congr' fun entity => ?_
      rw [List.mem_cons, not_or]
      exact (and_iff_right fun same => notText name entity same.symm).symm

/-- A declared entity has no two columns of one name. -/
theorem DeclaresEntity.hasDistinctColumns {entry : Datum × Datum} {named : Datum × Entity}
    (declares : DeclaresEntity entry named) :
    named.2.HasDistinctColumns := by
  obtain ⟨_, _, -, -, assigned⟩ := declares.columns
  exact assigned.distinct

/-- No declared entity has two columns of one name. -/
theorem Declares.hasDistinctColumns {document : Datum} (declares : Declares document catalogue) :
    ∀ named ∈ catalogue, named.2.HasDistinctColumns := by
  intro named member
  obtain ⟨entries, -, pairs⟩ := declares
  obtain ⟨entry, -, declares⟩ := exists_mem_of_forall₂ pairs member
  exact declares.hasDistinctColumns

end Catalogue
end RowFilter
