import RowFilter.Proofs.Query.Assembly
import RowFilter.Proofs.Query.Row
import RowFilter.Sql.Statement

/-!
# The shape and the truth of SQL predicates

A predicate that is built from atoms by joining is flat: every node has at
least two members, and no member has the connective of its node.  The truth of
a predicate follows from that of its atoms, and joining predicates joins their
truth values.
-/

namespace RowFilter
namespace Sql
namespace Predicate

/-- Induction on predicates, where the members of a node come as a list. -/
@[elab_as_elim]
theorem members_induction
    {motive : Predicate → Prop}
    (atom : ∀ condition, motive (.atom condition))
    (node : ∀ connective members,
      (∀ member ∈ members, motive member) → motive (.node connective members))
    (predicate : Predicate) :
    motive predicate :=
  @Predicate.rec motive (fun members => ∀ member ∈ members, motive member)
    atom node (by simp)
    (fun _ _ first others => List.forall_mem_cons.2 ⟨first, others⟩) predicate

/-! ## Flat predicates -/

/-- Nodes have at least two members and never the connective of a member. -/
inductive Flat : Predicate → Prop where
  /-- An atom is flat. -/
  | atom (condition : Atom) : Flat (.atom condition)
  /-- A node is flat when its connective alternates with those of its flat members. -/
  | node {connective : Connective} {members : List Predicate}
      (several : 2 ≤ members.length)
      (alternate : ∀ member ∈ members, member.connective? ≠ some connective)
      (flat : ∀ member ∈ members, Flat member) :
      Flat (.node connective members)

/-- A flat predicate contributes something to any node. -/
theorem Flat.membersUnder_ne_nil
    {predicate : Predicate} (flat : predicate.Flat) (connective : Connective) :
    predicate.membersUnder connective ≠ [] := by
  cases flat with
  | atom condition => simp [membersUnder]
  | node several alternate flat =>
      rw [membersUnder]
      split
      · intro empty
        simp [empty] at several
      · simp

/-- What a flat predicate contributes to a node is flat and has another connective. -/
theorem Flat.of_mem_membersUnder
    {predicate member : Predicate} (flat : predicate.Flat) {connective : Connective}
    (present : member ∈ predicate.membersUnder connective) :
    member.Flat ∧ member.connective? ≠ some connective := by
  cases flat with
  | atom condition =>
      rw [List.mem_singleton.1 present]
      exact ⟨.atom condition, by simp [connective?]⟩
  | @node own members several alternate flat =>
      rw [membersUnder] at present
      split at present
      · next same =>
          subst same
          exact ⟨flat member present, alternate member present⟩
      · next different =>
          rw [List.mem_singleton.1 present]
          exact ⟨.node several alternate flat, by simpa [connective?] using different⟩

/-- Joining flat predicates gives a flat predicate. -/
theorem Flat.join
    {left right : Predicate} (connective : Connective)
    (leftFlat : left.Flat) (rightFlat : right.Flat) :
    (left.join connective right).Flat := by
  have each : ∀ member ∈ left.membersUnder connective ++ right.membersUnder connective,
      member.Flat ∧ member.connective? ≠ some connective := by
    intro member present
    rcases List.mem_append.1 present with present | present
    · exact leftFlat.of_mem_membersUnder present
    · exact rightFlat.of_mem_membersUnder present
  refine .node ?_ (fun member present => (each member present).2)
    fun member present => (each member present).1
  have leftSome := List.length_pos_iff.2 (leftFlat.membersUnder_ne_nil connective)
  have rightSome := List.length_pos_iff.2 (rightFlat.membersUnder_ne_nil connective)
  rw [List.length_append]
  omega

/-! ## Atoms -/

mutual

/-- The atoms of a predicate, from left to right. -/
def atoms : Predicate → List Atom
  | atom condition => [condition]
  | node _ members => memberAtoms members

/-- The atoms of several predicates, from left to right. -/
def memberAtoms : List Predicate → List Atom
  | [] => []
  | member :: members => atoms member ++ memberAtoms members

end

theorem memberAtoms_eq_flatMap (members : List Predicate) :
    memberAtoms members = members.flatMap atoms := by
  induction members with
  | nil => rfl
  | cons member members inductionHypothesis =>
      rw [memberAtoms, inductionHypothesis, List.flatMap_cons]

@[simp] theorem atoms_atom (condition : Atom) : (atom condition).atoms = [condition] := rfl

@[simp] theorem atoms_node (connective : Connective) (members : List Predicate) :
    (node connective members).atoms = members.flatMap atoms :=
  memberAtoms_eq_flatMap members

/-- What a predicate contributes to a node has the atoms of the predicate. -/
theorem flatMap_atoms_membersUnder (connective : Connective) (predicate : Predicate) :
    (predicate.membersUnder connective).flatMap atoms = predicate.atoms := by
  cases predicate with
  | atom condition => simp [membersUnder]
  | node own members =>
      rw [membersUnder]
      split <;> simp

/-- Joining keeps all atoms in their order. -/
@[simp] theorem atoms_join (connective : Connective) (left right : Predicate) :
    (left.join connective right).atoms = left.atoms ++ right.atoms := by
  rw [join, atoms_node, List.flatMap_append, flatMap_atoms_membersUnder,
    flatMap_atoms_membersUnder]

/-! ## Truth -/

mutual

/-- The truth of a predicate, from that of its atoms. -/
def eval (atomTruth : Atom → Bool) : Predicate → Bool
  | atom condition => atomTruth condition
  | node .and members => evalAll atomTruth members
  | node .or members => evalAny atomTruth members

/-- All predicates are true. -/
def evalAll (atomTruth : Atom → Bool) : List Predicate → Bool
  | [] => true
  | member :: members => eval atomTruth member && evalAll atomTruth members

/-- Some predicate is true. -/
def evalAny (atomTruth : Atom → Bool) : List Predicate → Bool
  | [] => false
  | member :: members => eval atomTruth member || evalAny atomTruth members

end

variable (atomTruth : Atom → Bool)

theorem evalAll_eq_all (members : List Predicate) :
    evalAll atomTruth members = members.all (eval atomTruth) := by
  induction members with
  | nil => rfl
  | cons member members inductionHypothesis => rw [evalAll, inductionHypothesis, List.all_cons]

theorem evalAny_eq_any (members : List Predicate) :
    evalAny atomTruth members = members.any (eval atomTruth) := by
  induction members with
  | nil => rfl
  | cons member members inductionHypothesis => rw [evalAny, inductionHypothesis, List.any_cons]

@[simp] theorem eval_atom (condition : Atom) :
    (atom condition).eval atomTruth = atomTruth condition := rfl

@[simp] theorem eval_and (members : List Predicate) :
    (node .and members).eval atomTruth = members.all (eval atomTruth) :=
  evalAll_eq_all atomTruth members

@[simp] theorem eval_or (members : List Predicate) :
    (node .or members).eval atomTruth = members.any (eval atomTruth) :=
  evalAny_eq_any atomTruth members

/-- A predicate is true when all that it contributes to a conjunction is. -/
theorem all_membersUnder_and (predicate : Predicate) :
    (predicate.membersUnder .and).all (eval atomTruth) = predicate.eval atomTruth := by
  cases predicate with
  | atom condition => simp [membersUnder]
  | node own members => cases own <;> simp [membersUnder]

/-- A predicate is true when something that it contributes to a disjunction is. -/
theorem any_membersUnder_or (predicate : Predicate) :
    (predicate.membersUnder .or).any (eval atomTruth) = predicate.eval atomTruth := by
  cases predicate with
  | atom condition => simp [membersUnder]
  | node own members => cases own <;> simp [membersUnder]

/-- A conjunction is true when both sides are. -/
theorem eval_join_and (left right : Predicate) :
    (left.join .and right).eval atomTruth =
      (left.eval atomTruth && right.eval atomTruth) := by
  rw [join, eval_and, List.all_append, all_membersUnder_and, all_membersUnder_and]

/-- A disjunction is true when one of its sides is. -/
theorem eval_join_or (left right : Predicate) :
    (left.join .or right).eval atomTruth =
      (left.eval atomTruth || right.eval atomTruth) := by
  rw [join, eval_or, List.any_append, any_membersUnder_or, any_membersUnder_or]

end Predicate

/-- The evaluation of SQL predicates by the truth of their atoms. -/
def evaluation (atomTruth : Atom → Bool) : Evaluation backend where
  holds predicate := predicate.eval atomTruth = true
  holds_both left right := by
    rw [← Bool.and_eq_true, ← Predicate.eval_join_and]
    rfl
  holds_either left right := by
    rw [← Bool.or_eq_true, ← Predicate.eval_join_or]
    rfl

/-! ## Predicates of filters -/

/-- The column of a condition. -/
def Atom.column? : Atom → Option Identifier
  | compare column _ _ => some column
  | among column _ _ => some column
  | like column _ => some column
  | never => none

/-- A field that is resolved is declared, and its column is named in upper case. -/
theorem exists_spec_of_resolver
    {columns : Columns} {quote : Bool} {field : String} {column : ColumnExpr}
    (resolved : resolver columns quote field = .ok column) :
    ∃ spec, columns.lastDeclared? (Text.upper field) = some spec ∧
      column = { name := Text.upper field, spec, quote } := by
  rw [resolver, Columns.find?_upperNames] at resolved
  cases declared : columns.lastDeclared? (Text.upper field) with
  | none => simp [declared] at resolved
  | some spec =>
      simp only [declared, Except.ok.injEq] at resolved
      exact ⟨spec, rfl, resolved.symm⟩

/-- A condition compiles to one atom, and no other column than its own is named there. -/
theorem exists_atom_of_conditionCompiles
    {column : ColumnExpr} {condition : Condition} {predicate : Predicate}
    (rule : ConditionCompiles backend column condition predicate) :
    ∃ atom, predicate = .atom atom ∧
      ∀ identifier, atom.column? = some identifier → identifier = column.identifier := by
  have of_values (values : List Value) (identifier : Identifier)
      (named : (Atom.ofValues column.identifier values).column? = some identifier) :
      identifier = column.identifier := by
    cases values with
    | nil => cases named
    | cons first others => exact (Option.some.inj named).symm
  cases rule with
  | equalsMember enumeration found => exact ⟨_, rfl, fun _ named => (Option.some.inj named).symm⟩
  | compares plain => exact ⟨_, rfl, fun _ named => (Option.some.inj named).symm⟩
  | containsText asksText => exact ⟨_, rfl, fun _ named => (Option.some.inj named).symm⟩
  | amongMembers enumeration => exact ⟨_, rfl, of_values _⟩
  | amongValues plain => exact ⟨_, rfl, of_values _⟩

/-- What is assembled from the conjuncts of filters is flat. -/
theorem flat_of_assemble?
    {resolve : Resolver ColumnExpr} {filters : List Filter}
    {conjuncts : List (Conjunct Predicate)} {assembled : Predicate}
    (pairs : List.Forall₂ (IsConjunct backend resolve) filters conjuncts)
    (assembles : assemble? backend conjuncts = some assembled) :
    assembled.Flat := by
  refine assemble?_induction (fun _ _ => .join .and) (fun _ _ => .join .or) assembles ?_
  refine forall_mem_of_forall₂ pairs fun filter conjunct isConjunct => ?_
  obtain ⟨column, _, rule⟩ := compilesTo_iff.1 isConjunct.compiles
  obtain ⟨condition, equal, _⟩ := exists_atom_of_conditionCompiles rule
  exact equal ▸ .atom condition

/-- What holds of the atoms of every filter holds of the atoms of what is assembled. -/
theorem forall_atoms_of_assemble?
    {resolve : Resolver ColumnExpr} {good : Atom → Prop} {filters : List Filter}
    {conjuncts : List (Conjunct Predicate)} {assembled : Predicate}
    (pairs : List.Forall₂ (IsConjunct backend resolve) filters conjuncts)
    (assembles : assemble? backend conjuncts = some assembled)
    (each : ∀ filter predicate, CompilesTo backend resolve filter predicate →
      ∀ atom ∈ predicate.atoms, good atom) :
    ∀ atom ∈ assembled.atoms, good atom := by
  have step (connective : Connective) (left right : Predicate)
      (leftGood : ∀ atom ∈ left.atoms, good atom)
      (rightGood : ∀ atom ∈ right.atoms, good atom) :
      ∀ atom ∈ (left.join connective right).atoms, good atom := by
    rw [Predicate.atoms_join, List.forall_mem_append]
    exact ⟨leftGood, rightGood⟩
  refine assemble?_induction (step .and) (step .or) assembles ?_
  exact forall_mem_of_forall₂ pairs
    fun filter conjunct isConjunct => each filter conjunct.predicate isConjunct.compiles

end Sql
end RowFilter
