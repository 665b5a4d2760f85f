import Mathlib.Data.List.Nodup
import RowFilter.Proofs.Query.Refusal
import RowFilter.Proofs.Query.Row

/-!
# Members that values name

A membership on an enumeration is one among the members that its values name,
as they are declared.  Values that name no member are reported, once each.
-/

namespace RowFilter

/-- One of the values has the text as its plain text. -/
def IsNamed (items : List Value) (text : String) : Prop :=
  ∃ item ∈ items, item.plain = text

/-- The members that values name, each as often as it is declared and in that order. -/
structure KeepsNamed (members : List String) (items : List Value) (kept : List String) : Prop where
  /-- What is kept stands in the order of the members. -/
  sublist : kept.Sublist members
  /-- What is kept is named. -/
  named : ∀ member ∈ kept, IsNamed items member
  /-- A member that is named is kept every time that it is declared. -/
  count_eq : ∀ member, IsNamed items member → kept.count member = members.count member

/-- What is said of values that name no member: their texts, each once, in code-point order. -/
structure Warning.Reports (warning : Warning) (field : String) (column : ColumnSpec)
    (items : List Value) : Prop where
  /-- The field is the one that was asked for. -/
  field_eq : warning.field = field
  /-- The enumeration goes by its own name, or by that of the field. -/
  enumName_eq : warning.enumName = enumLabel field column
  /-- Exactly the texts that name no member are reported. -/
  mem_ignored_iff : ∀ text, text ∈ warning.ignored ↔ IsNamed items text ∧ text ∉ column.members
  /-- They ascend, so that none stands there twice. -/
  ascending : warning.ignored.Pairwise (· < ·)

variable {members kept : List String} {items : List Value} {field : String} {column : ColumnSpec}

/-! ## The members that are kept -/

theorem isNamed_iff_contains {text : String} :
    (items.map Value.plain).contains text = true ↔ IsNamed items text := by
  rw [List.contains_iff_mem, List.mem_map, IsNamed]

theorem keepsNamed_namedMembers (members : List String) (items : List Value) :
    KeepsNamed members items (namedMembers members items) where
  sublist := List.filter_sublist
  named _ present := (mem_namedMembers_iff.1 present).2
  count_eq _ isNamed := List.count_filter (isNamed_iff_contains.2 isNamed)

/-- What is kept are the members that are named. -/
theorem KeepsNamed.mem_iff (keeps : KeepsNamed members items kept) {member : String} :
    member ∈ kept ↔ member ∈ members ∧ IsNamed items member := by
  constructor
  · exact fun present => ⟨keeps.sublist.subset present, keeps.named member present⟩
  · rintro ⟨declared, isNamed⟩
    rw [← List.count_pos_iff, keeps.count_eq member isNamed, List.count_pos_iff]
    exact declared

/-- Nothing else is kept than what compilation keeps. -/
theorem keepsNamed_iff : KeepsNamed members items kept ↔ kept = namedMembers members items := by
  have all := keepsNamed_namedMembers members items
  constructor
  · intro keeps
    have within : kept.Sublist (namedMembers members items) := by
      have filtered := keeps.sublist.filter fun member => (items.map Value.plain).contains member
      rwa [List.filter_eq_self.2 fun member present =>
        isNamed_iff_contains.2 (keeps.named member present)] at filtered
    refine within.eq_of_length (List.Perm.length_eq ?_)
    rw [List.perm_iff_count]
    intro member
    by_cases isNamed : IsNamed items member
    · rw [keeps.count_eq member isNamed, all.count_eq member isNamed]
    · rw [List.count_eq_zero.2 fun present => isNamed (keeps.named member present),
        List.count_eq_zero.2 fun present => isNamed (all.named member present)]
  · rintro rfl
    exact all

/-- Nothing is kept exactly when no member is named. -/
theorem KeepsNamed.eq_nil_iff (keeps : KeepsNamed members items kept) :
    kept = [] ↔ ∀ member ∈ members, ¬IsNamed items member := by
  simp only [List.eq_nil_iff_forall_not_mem, keeps.mem_iff, not_and]

/-! ## The texts that are reported -/

theorem nodup_eraseDups (texts : List String) : texts.eraseDups.Nodup := by
  cases texts with
  | nil => exact List.nodup_nil
  | cons text texts =>
      rw [List.eraseDups_cons, List.nodup_cons]
      exact ⟨by simp, nodup_eraseDups _⟩
-- The texts behind the first one lose its repeats before their own are erased.
termination_by texts.length
decreasing_by
  rw [List.length_cons, Nat.lt_succ_iff]
  exact List.length_filter_le _ _

theorem mem_sortedDistinct_iff {texts : List String} {text : String} :
    text ∈ sortedDistinct texts ↔ text ∈ texts := by
  rw [sortedDistinct, List.mem_mergeSort, List.mem_eraseDups]

/-- Sorted texts without repeats grow strictly. -/
theorem pairwise_lt_sortedDistinct (texts : List String) :
    (sortedDistinct texts).Pairwise (· < ·) := by
  have sorted : (sortedDistinct texts).Pairwise fun left right => textLE left right = true := by
    refine List.pairwise_mergeSort ?_ ?_ _
    · intro first second third
      simpa only [textLE, decide_eq_true_eq] using String.le_trans
    · intro left right
      simpa only [textLE, Bool.or_eq_true, decide_eq_true_eq] using String.le_total left right
  have distinct : (sortedDistinct texts).Pairwise (· ≠ ·) :=
    (List.mergeSort_perm _ _).nodup_iff.2 (nodup_eraseDups texts)
  refine (sorted.and distinct).imp ?_
  rintro left right ⟨notAbove, different⟩
  have notAbove : left ≤ right := of_decide_eq_true notAbove
  exact String.not_le.1 fun above => different (String.le_antisymm notAbove above)

/-- The strangers are the texts that are named and are no members. -/
theorem mem_strangers_iff {text : String} :
    text ∈ strangers members items ↔ IsNamed items text ∧ text ∉ members := by
  rw [strangers, mem_sortedDistinct_iff, List.mem_filter, ← List.contains_iff_mem,
    isNamed_iff_contains]
  simp

/-- There are no strangers exactly when all texts are members. -/
theorem strangers_eq_nil_iff :
    strangers members items = [] ↔ ∀ item ∈ items, item.plain ∈ members := by
  simp only [List.eq_nil_iff_forall_not_mem, mem_strangers_iff, not_and, not_not, IsNamed]
  constructor
  · exact fun known item present => known item.plain ⟨item, present, rfl⟩
  · rintro known text ⟨item, present, rfl⟩
    exact known item present

/-- There is a warning exactly when some value names no member. -/
theorem membershipWarning?_eq_none_iff :
    membershipWarning? field column items = none ↔
      ∀ item ∈ items, item.plain ∈ column.members := by
  rw [← strangers_eq_nil_iff, membershipWarning?]
  cases strangers column.members items <;> simp

/-- A warning reports the strangers of its membership. -/
theorem reports_of_membershipWarning? {warning : Warning}
    (warns : membershipWarning? field column items = some warning) :
    warning.Reports field column items := by
  have ignored : warning.ignored = strangers column.members items ∧ warning.field = field ∧
      warning.enumName = enumLabel field column := by
    rw [membershipWarning?] at warns
    split at warns
    · cases warns
    · next found =>
        cases warns
        exact ⟨rfl, rfl, rfl⟩
  obtain ⟨ignored, field_eq, enumName_eq⟩ := ignored
  refine ⟨field_eq, enumName_eq, fun text => ?_, ?_⟩
  · rw [ignored, mem_strangers_iff]
  · rw [ignored]
    exact pairwise_lt_sortedDistinct _

/-! ## The member that an equation compares with -/

/-- Every member is compared with some member of its own upper-case form. -/
theorem exists_isFirstNamed {member : String} (declared : member ∈ members) :
    ∃ first, IsFirstNamed members member first := by
  cases found : matchingMember? members (.text member) with
  | some first => exact ⟨first, matchingMember?_eq_some_iff.1 found⟩
  | none => exact absurd rfl (matchingMember?_eq_none_iff.1 found member declared)

/-- A member is compared with itself when no other one of its upper-case form comes before it. -/
theorem IsFirstNamed.eq_iff {member first : String} (isFirst : IsFirstNamed members member first) :
    first = member ↔ IsFirstNamed members member member := by
  constructor
  · rintro rfl
    exact isFirst
  · intro itself
    exact @unique members (.text member) first member isFirst itself

theorem namedMembers_singleton (members : List String) (member : String) :
    namedMembers members [.text member] = List.replicate (members.count member) member := by
  rw [namedMembers, ← List.filter_beq]
  refine List.filter_congr fun other _ => ?_
  rw [Bool.eq_iff_iff, List.contains_iff_mem, List.map_singleton, List.mem_singleton, beq_iff_eq]
  rfl

/-! ## Filters on enumerations -/

variable {Expression Predicate : Type}
variable {backend : Backend Expression Predicate} {resolve : Resolver Expression}
variable {filter : Filter} {expression : Expression}

/-- An equation on an enumeration asks for the first member of the same upper case. -/
theorem compileFilter_of_equation
    {item : Value} (equates : filter.condition = .test (.compare .eq) item)
    (resolved : resolve filter.field = .ok expression)
    (enumeration : (backend.column expression).isEnumeration = true)
    {first : String} (isFirst : IsFirstNamed (backend.column expression).members item.plain first) :
    compileFilter backend resolve filter =
      .ok { predicate := backend.compare expression .eq (.text first) } := by
  rw [compileFilter, resolved, equates]
  simp only [compileTest, if_pos enumeration, matchingMember?_eq_some_iff.2 isFirst]

/-- A membership on an enumeration asks for the members that it names. -/
theorem compileFilter_of_among
    (asks : filter.condition = .among items)
    (resolved : resolve filter.field = .ok expression)
    (enumeration : (backend.column expression).isEnumeration = true) :
    compileFilter backend resolve filter =
      .ok {
        predicate := backend.among expression
          ((namedMembers (backend.column expression).members items).map .text)
        warning := membershipWarning? filter.field (backend.column expression) items } := by
  rw [compileFilter, resolved, asks]
  simp only [compileAmong, if_pos enumeration]

end RowFilter
