import RowFilter.Proofs.Query.Order
import RowFilter.Proofs.Sql.Binding
import RowFilter.Proofs.Sql.Shape

/-!
# Conditions in another order

Filters in another order may become a predicate of another shape.  It is true
in the same cases, and it is made of the same atoms with the same values, each
as often as before.
-/

namespace RowFilter
namespace Sql
namespace Predicate

/-! ## The atoms of an assembled predicate -/

/-- Joining one by one puts the atoms one after the other. -/
theorem atoms_foldl_join
    (connective : Connective) (first : Predicate) (others : List Predicate) :
    (others.foldl (join connective) first).atoms = (first :: others).flatMap atoms := by
  induction others generalizing first with
  | nil => simp
  | cons second others inductionHypothesis =>
      rw [List.foldl_cons, inductionHypothesis]
      simp

/-- The atoms of what is joined are those of its parts, in order. -/
theorem atoms_joinAll?
    {connective : Connective} {predicates : List Predicate} {joined : Predicate}
    (joins : joinAll? (join connective) predicates = some joined) :
    joined.atoms = predicates.flatMap atoms := by
  cases predicates with
  | nil => cases joins
  | cons first others =>
      cases joins
      exact atoms_foldl_join connective first others

/-- The atoms of all plain conjuncts come first, then those of the searches. -/
theorem atoms_assemble?
    {conjuncts : List (Conjunct Predicate)} {assembled : Predicate}
    (assembles : assemble? backend conjuncts = some assembled) :
    assembled.atoms =
      (plainPredicates conjuncts).flatMap atoms ++ (searchPredicates conjuncts).flatMap atoms := by
  rw [atoms_joinAll? assembles, List.flatMap_append]
  cases group : joinAll? backend.either (searchPredicates conjuncts) with
  | none =>
      rw [(joinAll?_eq_none_iff _).1 group]
      rfl
  | some disjunction => simp [atoms_joinAll? group]

/-! ## Two orders -/

/-- Two predicates that are true in the same cases, with the same atoms and the same values. -/
structure SameUpToOrder (left right : Predicate) : Prop where
  /-- Whatever the truth of the atoms, both predicates are true or neither is. -/
  eval_eq : ∀ atomTruth, left.eval atomTruth = right.eval atomTruth
  /-- Every atom stands in both, as often in one as in the other. -/
  atoms_perm : left.atoms.Perm right.atoms
  /-- Every value is bound by both, as often by one as by the other. -/
  params_perm : left.params.Perm right.params

variable {conjuncts moved : List (Conjunct Predicate)}

/-- Conjuncts in another order make up the same predicate up to order. -/
theorem sameUpToOrder_of_perm
    {left right : Predicate}
    (perm : conjuncts.Perm moved)
    (leftAssembles : assemble? backend conjuncts = some left)
    (rightAssembles : assemble? backend moved = some right) :
    left.SameUpToOrder right := by
  have atoms_perm : left.atoms.Perm right.atoms := by
    rw [atoms_assemble? leftAssembles, atoms_assemble? rightAssembles]
    apply List.Perm.append
    · exact (plainPredicates_perm perm).flatMap_right atoms
    · exact (searchPredicates_perm perm).flatMap_right atoms
  refine ⟨fun atomTruth => ?_, atoms_perm, ?_⟩
  · rw [Bool.eq_iff_iff]
    exact (evaluation atomTruth).holds_iff_of_perm perm leftAssembles rightAssembles
  · rw [params_eq_flatMap, params_eq_flatMap]
    exact atoms_perm.flatMap_right Atom.params

/-- Conjuncts in another order have no predicate either, or one that is the same up to order. -/
theorem rel_assemble?_of_perm (perm : conjuncts.Perm moved) :
    Option.Rel SameUpToOrder (assemble? backend conjuncts) (assemble? backend moved) := by
  cases leftAssembles : assemble? backend conjuncts with
  | none =>
      rw [(assemble?_eq_none_iff_of_perm perm).1 leftAssembles]
      exact .none
  | some left =>
      cases rightAssembles : assemble? backend moved with
      | none =>
          rw [(assemble?_eq_none_iff_of_perm perm).2 rightAssembles] at leftAssembles
          cases leftAssembles
      | some right => exact .some (sameUpToOrder_of_perm perm leftAssembles rightAssembles)

end Predicate

/-! ## Two orders of filters -/

/--
Two orders of the same filters both fail or both compile.  If they compile,
they have the same predicate up to order and the same warnings up to order.
-/
theorem compile_sameUpToOrder_of_perm
    (columns : Columns)
    (quote : Bool)
    {filters others : List Filter}
    (perm : filters.Perm others) :
    (∃ error othersError,
      (compile backend (resolver columns quote) filters).outcome = .error error ∧
      (compile backend (resolver columns quote) others).outcome = .error othersError) ∨
    ∃ predicate? othersPredicate?,
      (compile backend (resolver columns quote) filters).outcome = .ok predicate? ∧
      (compile backend (resolver columns quote) others).outcome = .ok othersPredicate? ∧
      Option.Rel Predicate.SameUpToOrder predicate? othersPredicate? ∧
      (compile backend (resolver columns quote) filters).warnings.Perm
        (compile backend (resolver columns quote) others).warnings := by
  cases outcome : (compile backend (resolver columns quote) filters).outcome with
  | error error =>
      obtain ⟨othersError, failed⟩ := (compile_fails_iff_of_perm perm).1 ⟨error, outcome⟩
      exact Or.inl ⟨error, othersError, rfl, failed⟩
  | ok predicate? =>
      obtain ⟨conjuncts, pairs, rfl⟩ := compile_outcome_eq_ok_iff.1 outcome
      obtain ⟨moved, movedPairs, movedPerm⟩ := exists_perm_conjuncts perm pairs
      exact Or.inr ⟨_, _, rfl, compile_outcome_eq movedPairs,
        Predicate.rel_assemble?_of_perm movedPerm, warnings_perm perm (sound_of_compiled outcome)⟩

/-! ### Two searches around a membership -/

namespace Sample

/-- Tasks with a state, a name and a city. -/
def board : Columns :=
  tasks ++ [("name", { type := .text }), ("city", { type := .text })]

/-- A membership that names a stranger stands between two searches. -/
def wanted : List Filter :=
  [RowFilter.Sample.searchName, inStates ["Done", "Lost"], RowFilter.Sample.searchCity]

end Sample

/-- The group of the searches comes last in both orders, with its members the other way round. -/
example :
    (whereClause {} (resolver Sample.board false) Sample.wanted).toOption.map
        (fun made => made.1.sql) =
      some ("WHERE STATE IN (?) AND " ++
        "(UPPER(NAME) LIKE ? ESCAPE '\\' OR UPPER(CITY) LIKE ? ESCAPE '\\')") ∧
    (whereClause {} (resolver Sample.board false) Sample.wanted.reverse).toOption.map
        (fun made => made.1.sql) =
      some ("WHERE STATE IN (?) AND " ++
        "(UPPER(CITY) LIKE ? ESCAPE '\\' OR UPPER(NAME) LIKE ? ESCAPE '\\')") := by
  exact ⟨rfl, rfl⟩

/-- Two searches around a membership with a stranger come to the same in the reverse order. -/
theorem compile_sameUpToOrder_of_perm_reversed :
    Sample.wanted.Perm Sample.wanted.reverse ∧
    ∃ predicate othersPredicate,
      (compile backend (resolver Sample.board false) Sample.wanted).outcome =
        .ok (some predicate) ∧
      (compile backend (resolver Sample.board false) Sample.wanted.reverse).outcome =
        .ok (some othersPredicate) ∧
      predicate.SameUpToOrder othersPredicate ∧
      (compile backend (resolver Sample.board false) Sample.wanted).warnings.Perm
        (compile backend (resolver Sample.board false) Sample.wanted.reverse).warnings := by
  have perm : Sample.wanted.Perm Sample.wanted.reverse := (List.reverse_perm _).symm
  have compiled : ∃ predicate,
      (compile backend (resolver Sample.board false) Sample.wanted).outcome =
        .ok (some predicate) := ⟨_, rfl⟩
  obtain ⟨predicate, outcome⟩ := compiled
  refine ⟨perm, predicate, ?_⟩
  rcases compile_sameUpToOrder_of_perm Sample.board false perm with
    ⟨_, _, failed, -⟩ | ⟨_, _, same, othersOutcome, rel, warnings⟩
  · rw [outcome] at failed
    cases failed
  · rw [outcome, Except.ok.injEq] at same
    subst same
    cases rel with
    | some related => exact ⟨_, outcome, othersOutcome, related, warnings⟩

end Sql
end RowFilter
