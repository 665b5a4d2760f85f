import RowFilter.Proofs.Catalogue.Declared
import RowFilter.Proofs.Pairs
import RowFilter.Proofs.Text.Case

/-!
# Catalogues in normal form

What a document declares is in normal form: every view has a name, the names of
columns are in upper case, and exactly the enumerations have members and a name
for them.
-/

namespace RowFilter

/-- A name that is its own upper-case form. -/
inductive IsUpperName : String → Prop
  /-- A text that is in upper case. -/
  | text {name : String} (fixed : Text.upper name = name) : IsUpperName name
  /-- Octets that are in upper case, as they are shown. -/
  | octets {content : List UInt8} (fixed : Text.upperOctets content = content) :
      IsUpperName (Text.quotedOctets content)

/-- Enumerations have members and a name, other columns have neither. -/
structure ColumnSpec.IsCoherent (spec : ColumnSpec) : Prop where
  /-- Exactly the enumerations have members. -/
  type_eq_iff : spec.type = .enumeration ↔ spec.members ≠ []
  /-- Exactly what has members has a name for them. -/
  members_ne_nil_iff : spec.members ≠ [] ↔ spec.enumName.isSome = true

/-- An entity in normal form. -/
structure Entity.IsNormal (entity : Entity) : Prop where
  /-- The view has a name. -/
  view_ne_empty : entity.view ≠ ""
  /-- The names of the columns are in upper case. -/
  upperNames : ∀ column ∈ entity.columns, IsUpperName column.1
  /-- The columns are coherent. -/
  coherent : ∀ column ∈ entity.columns, column.2.IsCoherent

namespace Catalogue

/-- The upper name of a key is in upper case. -/
theorem Names.isUpperName {key : Datum} {name upperName : String}
    (names : Names key name upperName) :
    IsUpperName upperName := by
  cases names with
  | text => exact .text (Text.upper_upper name)
  | octets content => exact .octets (Text.upperOctets_upperOctets content)

/-- A declared column is coherent. -/
theorem DeclaresSpec.isCoherent {name : String} {datum : Datum} {spec : ColumnSpec}
    (declares : DeclaresSpec name datum spec) :
    spec.IsCoherent := by
  cases declares with
  | enumeration _ _ nonempty _ => exact ⟨by simp [nonempty], by simp [nonempty]⟩
  | plain _ other _ => exact ⟨by simp [other], by simp⟩

/-- A declared entity is in normal form. -/
theorem DeclaresEntity.isNormal {entry : Datum × Datum} {named : Datum × Entity}
    (form : isEntity entry.2 = true) (declares : DeclaresEntity entry named) :
    named.2.IsNormal := by
  obtain ⟨entries, declared, -, pairs, assigned⟩ := declares.columns
  have declaredBy : ∀ column ∈ named.2.columns, ∃ entry ∈ entries, DeclaresColumn entry column := by
    intro column member
    exact exists_mem_of_forall₂ pairs (assigned.mem member)
  constructor
  · obtain ⟨view, -, viewFound, nonempty, -⟩ := exists_parts_of_isEntity form
    have view_eq := declares.view
    rw [viewFound, Option.some.injEq, Datum.text.injEq] at view_eq
    rwa [← view_eq]
  · intro column member
    obtain ⟨_, _, _, names, _⟩ := declaredBy column member
    exact names.isUpperName
  · intro column member
    obtain ⟨_, _, _, _, declaresSpec⟩ := declaredBy column member
    exact declaresSpec.isCoherent

/-- Every entity that a document declares is in normal form. -/
theorem Declares.isNormal {document : Datum} {catalogue : Catalogue}
    (form : isCatalogue document = true) (declares : Declares document catalogue) :
    ∀ named ∈ catalogue, named.2.IsNormal := by
  intro named member
  obtain ⟨entries, found, forms⟩ := exists_map_of_isCatalogue form
  obtain ⟨entries', found', pairs⟩ := declares
  rw [found, Option.some.injEq, Datum.map.injEq] at found'
  subst found'
  obtain ⟨entry, present, declares⟩ := exists_mem_of_forall₂ pairs member
  exact declares.isNormal (forms entry present)

end Catalogue
end RowFilter
