import Mathlib.Data.List.Forall2

/-!
# Lists that are related member by member

What holds of the members of one list holds of the members of the other, as far
as the relation carries it over.  Names that are distinct are related to the
values with which they are entered.
-/

namespace RowFilter

variable {α β : Type} {related : α → β → Prop} {lefts : List α} {rights : List β}

/-- Every member on the right has a partner on the left. -/
theorem exists_mem_of_forall₂
    (pairs : List.Forall₂ related lefts rights) {b : β} (member : b ∈ rights) :
    ∃ a ∈ lefts, related a b := by
  induction pairs with
  | nil => exact absurd member List.not_mem_nil
  | cons first _ inductionHypothesis =>
      rcases List.mem_cons.1 member with rfl | later
      · exact ⟨_, List.mem_cons_self, first⟩
      · obtain ⟨a, present, partner⟩ := inductionHypothesis later
        exact ⟨a, List.mem_cons_of_mem _ present, partner⟩

theorem forall_mem_of_forall₂
    {right : β → Prop}
    (pairs : List.Forall₂ related lefts rights)
    (imply : ∀ a b, related a b → right b) :
    ∀ b ∈ rights, right b := by
  intro b member
  obtain ⟨a, _, partner⟩ := exists_mem_of_forall₂ pairs member
  exact imply a b partner

theorem forall_mem_iff_of_forall₂
    {left : α → Prop} {right : β → Prop}
    (pairs : List.Forall₂ related lefts rights)
    (agree : ∀ a ∈ lefts, ∀ b, related a b → (right b ↔ left a)) :
    (∀ b ∈ rights, right b) ↔ ∀ a ∈ lefts, left a := by
  induction pairs with
  | nil => simp
  | cons first _ inductionHypothesis =>
      rw [List.forall_mem_cons] at agree
      rw [List.forall_mem_cons, List.forall_mem_cons, agree.1 _ first,
        inductionHypothesis agree.2]

theorem exists_mem_iff_of_forall₂
    {left : α → Prop} {right : β → Prop}
    (pairs : List.Forall₂ related lefts rights)
    (agree : ∀ a ∈ lefts, ∀ b, related a b → (right b ↔ left a)) :
    (∃ b ∈ rights, right b) ↔ ∃ a ∈ lefts, left a := by
  induction pairs with
  | nil => simp
  | cons first _ inductionHypothesis =>
      rw [List.forall_mem_cons] at agree
      rw [List.exists_mem_cons_iff, List.exists_mem_cons_iff, agree.1 _ first,
        inductionHypothesis agree.2]

/-- A place on the right has a partner on the left, and what follows it is related too. -/
theorem exists_append_cons_of_forall₂
    {before after : List β} {b : β}
    (pairs : List.Forall₂ related lefts (before ++ b :: after)) :
    ∃ others a rest, lefts = others ++ a :: rest ∧ related a b ∧
      List.Forall₂ related rest after := by
  have dropped := List.forall₂_drop_append lefts before (b :: after) pairs
  obtain ⟨a, rest, partner, behind, drop_eq⟩ := List.forall₂_cons_right_iff.1 dropped
  refine ⟨lefts.take before.length, a, rest, ?_, partner, behind⟩
  rw [← drop_eq, List.take_append_drop]

/-! ## Entries -/

variable [DecidableEq α]

/-- Among entries with distinct names each of them is found under its name. -/
theorem lookup_of_mem
    {entries : List (α × β)} (distinct : (entries.map Prod.fst).Nodup)
    {entry : α × β} (member : entry ∈ entries) :
    entries.lookup entry.1 = some entry.2 := by
  obtain ⟨before, after, rfl⟩ := List.append_of_mem member
  refine List.lookup_eq_some_iff.2 ⟨before, after, rfl, fun other present => ?_⟩
  rw [List.map_append, List.nodup_append] at distinct
  rw [bne_iff_ne]
  exact (distinct.2.2 _ (List.mem_map_of_mem present) _ List.mem_cons_self).symm

theorem forall₂_lookup_zip
    (distinct : lefts.Nodup) (count : lefts.length = rights.length) :
    List.Forall₂ (fun name value => (lefts.zip rights).lookup name = some value) lefts rights := by
  refine List.forall₂_iff_zip.2 ⟨count, fun member => lookup_of_mem ?_ member⟩
  rwa [List.map_fst_zip (Nat.le_of_eq count)]

end RowFilter
