import Mathlib.Data.List.Perm.Basic
import RowFilter.Proofs.Query.Course

/-!
# Filters in another order

Over any backend, filters in another order compile when they do in the first
one.  They have the same conjuncts and the same warnings in another order, and
however predicates are evaluated, the order does not matter.
-/

namespace RowFilter

variable {Expression Predicate : Type}
variable {backend : Backend Expression Predicate} {resolve : Resolver Expression}
variable {filters others : List Filter}

/-- Filters in another order become the same conjuncts in another order. -/
theorem exists_perm_conjuncts
    (perm : filters.Perm others) {conjuncts : List (Conjunct Predicate)}
    (pairs : List.Forall₂ (IsConjunct backend resolve) filters conjuncts) :
    ∃ moved, List.Forall₂ (IsConjunct backend resolve) others moved ∧ conjuncts.Perm moved := by
  obtain ⟨moved, movedPairs, movedPerm⟩ := List.perm_comp_forall₂ perm.symm pairs
  exact ⟨moved, movedPairs, movedPerm.symm⟩

/-- A run over filters in another order fails when the first one does. -/
theorem compile_fails_iff_of_perm (perm : filters.Perm others) :
    (∃ error, (compile backend resolve filters).outcome = .error error) ↔
      ∃ error, (compile backend resolve others).outcome = .error error := by
  simp only [compile_fails_iff, perm.mem_iff]

/-- Filters that compile give the same warnings in any order. -/
theorem warnings_perm
    (perm : filters.Perm others)
    (sound : ∀ filter ∈ filters, ¬filter.Fails backend resolve) :
    (compile backend resolve filters).warnings.Perm
      (compile backend resolve others).warnings := by
  have othersSound : ∀ filter ∈ others, ¬filter.Fails backend resolve := by
    intro filter member
    exact sound filter (perm.mem_iff.2 member)
  rw [(compile_of_sound sound).2.2, (compile_of_sound othersSound).2.2]
  exact perm.flatMap_right _

/-! ## Conjuncts in another order -/

variable {conjuncts moved : List (Conjunct Predicate)} {left right : Predicate}

theorem plainPredicates_perm (perm : conjuncts.Perm moved) :
    (plainPredicates conjuncts).Perm (plainPredicates moved) :=
  (perm.filter _).map _

theorem searchPredicates_perm (perm : conjuncts.Perm moved) :
    (searchPredicates conjuncts).Perm (searchPredicates moved) :=
  (perm.filter _).map _

theorem assemble?_eq_none_iff_of_perm (perm : conjuncts.Perm moved) :
    assemble? backend conjuncts = none ↔ assemble? backend moved = none := by
  rw [assemble?_eq_none_iff, assemble?_eq_none_iff, ← List.length_eq_zero_iff, perm.length_eq,
    List.length_eq_zero_iff]

/-- What is assembled from conjuncts in another order holds in the same cases. -/
theorem Evaluation.holds_iff_of_perm
    (evaluation : Evaluation backend)
    (perm : conjuncts.Perm moved)
    (leftAssembles : assemble? backend conjuncts = some left)
    (rightAssembles : assemble? backend moved = some right) :
    evaluation.holds left ↔ evaluation.holds right := by
  have plain := plainPredicates_perm perm
  have searches := searchPredicates_perm perm
  have noSearch : searchPredicates conjuncts = [] ↔ searchPredicates moved = [] := by
    rw [← List.length_eq_zero_iff, searches.length_eq, List.length_eq_zero_iff]
  rw [evaluation.holds_assemble? leftAssembles, evaluation.holds_assemble? rightAssembles]
  simp only [plain.mem_iff, searches.mem_iff, Ne, noSearch]

end RowFilter
