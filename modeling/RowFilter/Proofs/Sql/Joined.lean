import RowFilter.Proofs.Sql.Raw
import RowFilter.Proofs.Sql.Unambiguous

/-!
# Joined predicates

Raw predicates may have fields that do not go together.  What is built by
joining leaves of any fragments is exactly what is flat in all its parts.
Joining is associative, and respects values and truth.

Predicates are joined as their fields are.
-/

namespace RowFilter
namespace Sql

/-- The truth of members under a connective. -/
def Connective.truth : Connective → List Bool → Bool
  | .and, truths => truths.all id
  | .or, truths => truths.any id

/-- A single member decides. -/
theorem Connective.truth_singleton (connective : Connective) (truth : Bool) :
    connective.truth [truth] = truth := by
  cases connective <;> simp [Connective.truth]

/-- Members may be taken together in two groups. -/
theorem Connective.truth_append (connective : Connective) (lefts rights : List Bool) :
    connective.truth (lefts ++ rights) =
      connective.truth [connective.truth lefts, connective.truth rights] := by
  cases connective <;> simp [Connective.truth]

/-- Joining is associative; what is joined has the values and the truth of its sides. -/
structure JoinsFaithfully {Formula Leaf : Type}
    (join : Connective → Formula → Formula → Formula)
    (params : Formula → List Value)
    (eval : (Leaf → Bool) → Formula → Bool) : Prop where
  /-- Joining by one connective is associative. -/
  assoc : ∀ connective first second third,
    join connective (join connective first second) third =
      join connective first (join connective second third)
  /-- The values of the left side come before those of the right side. -/
  params_join : ∀ connective left right,
    params (join connective left right) = params left ++ params right
  /-- A conjunction is true when both sides are. -/
  eval_and : ∀ leafTruth left right,
    eval leafTruth (join .and left right) = (eval leafTruth left && eval leafTruth right)
  /-- A disjunction is true when one of its sides is. -/
  eval_or : ∀ leafTruth left right,
    eval leafTruth (join .or left right) = (eval leafTruth left || eval leafTruth right)

namespace RawPredicate

/-! ## Joining -/

variable {connective : Connective} {predicate left right : RawPredicate}

/-- What is contributed to a node is a member of the same connective, or the predicate itself. -/
theorem mem_membersUnder_iff {member : RawPredicate} :
    member ∈ predicate.membersUnder connective ↔
      predicate.connective? = some connective ∧ member ∈ predicate.members ∨
        predicate.connective? ≠ some connective ∧ member = predicate := by
  by_cases same : predicate.connective? = some connective
  · simp [membersUnder_of_eq, same]
  · simp [membersUnder_of_ne, same]

/-- An operand with another connective stands in front of the members of a node. -/
theorem join_node (different : left.connective? ≠ some connective) (members : List RawPredicate) :
    left.join connective { connective? := some connective, members } =
      { connective? := some connective, members := left :: members } := by
  rw [join, membersUnder_of_ne different, membersUnder_of_eq rfl, List.singleton_append]

theorem membersUnder_join :
    (left.join connective right).membersUnder connective =
      left.membersUnder connective ++ right.membersUnder connective :=
  membersUnder_of_eq rfl

/-- Joining raw predicates is associative, as appending their members is. -/
theorem join_assoc (connective : Connective) (first second third : RawPredicate) :
    (first.join connective second).join connective third =
      first.join connective (second.join connective third) := by
  rw [join, membersUnder_join, join, membersUnder_join, List.append_assoc]

/-! ## Values and truth -/

/-- The truth of a raw predicate, from that of the fragments of its leaves. -/
def eval (leafTruth : List Piece → Bool) : RawPredicate → Bool
  | { fragments, connective? := none, .. } => leafTruth fragments
  | { connective? := some connective, members, .. } =>
      connective.truth (members.map fun member => member.eval leafTruth)

/-- What a predicate contributes to a node has the values of the predicate. -/
theorem flatMap_params_membersUnder (connective : Connective) (predicate : RawPredicate) :
    (predicate.membersUnder connective).flatMap params = predicate.params := by
  by_cases same : predicate.connective? = some connective
  · obtain ⟨fragments, _, members⟩ := predicate
    subst same
    rw [membersUnder_of_eq rfl, params]
  · rw [membersUnder_of_ne same, List.flatMap_singleton]

/-- The values of the left side come before those of the right side. -/
theorem params_join (connective : Connective) (left right : RawPredicate) :
    (left.join connective right).params = left.params ++ right.params := by
  rw [join, params, List.flatMap_append, flatMap_params_membersUnder,
    flatMap_params_membersUnder]

/-- What a predicate contributes to a node is as true as the predicate. -/
theorem truth_membersUnder
    (leafTruth : List Piece → Bool) (connective : Connective) (predicate : RawPredicate) :
    connective.truth ((predicate.membersUnder connective).map (eval leafTruth)) =
      predicate.eval leafTruth := by
  by_cases same : predicate.connective? = some connective
  · obtain ⟨fragments, _, members⟩ := predicate
    subst same
    rw [membersUnder_of_eq rfl, eval]
  · rw [membersUnder_of_ne same, List.map_singleton, connective.truth_singleton]

/-- What is joined is true as its two sides together. -/
theorem eval_join
    (leafTruth : List Piece → Bool) (connective : Connective) (left right : RawPredicate) :
    (left.join connective right).eval leafTruth =
      connective.truth [left.eval leafTruth, right.eval leafTruth] := by
  rw [join, eval, List.map_append, connective.truth_append, truth_membersUnder,
    truth_membersUnder]

theorem joinsFaithfully : JoinsFaithfully join params eval where
  assoc := join_assoc
  params_join := params_join
  eval_and leafTruth left right := by simp [eval_join, Connective.truth]
  eval_or leafTruth left right := by simp [eval_join, Connective.truth]

/-! ## Flat predicates -/

/-- Raw predicates that come about from leaves by joining. -/
inductive Built : RawPredicate → Prop where
  /-- A leaf by itself, of any fragments. -/
  | leaf (fragments : List Piece) : Built { fragments }
  /-- Two built predicates, joined. -/
  | join (connective : Connective) {left right : RawPredicate}
      (leftBuilt : Built left) (rightBuilt : Built right) :
      Built (left.join connective right)

/-- The parts of a raw predicate: itself, its members, their members and so on. -/
inductive IsPartOf : RawPredicate → RawPredicate → Prop where
  /-- The whole is a part. -/
  | self (predicate : RawPredicate) : IsPartOf predicate predicate
  /-- The parts of members are parts. -/
  | member {part member predicate : RawPredicate}
      (present : member ∈ predicate.members) (inner : IsPartOf part member) :
      IsPartOf part predicate

/-- Fragments without members, or several members without fragments that alternate. -/
inductive IsFlat : RawPredicate → Prop where
  /-- A leaf has no members. -/
  | leaf (fragments : List Piece) : IsFlat { fragments }
  /-- A node has no fragments, at least two members, and its connective is that of none of them. -/
  | node {connective : Connective} {members : List RawPredicate}
      (several : 2 ≤ members.length)
      (alternate : ∀ member ∈ members, member.connective? ≠ some connective) :
      IsFlat { connective? := some connective, members }

/-- The parts of what is contributed to a node are parts of the predicate. -/
theorem IsPartOf.of_mem_membersUnder
    {part member : RawPredicate} (inner : part.IsPartOf member)
    (present : member ∈ predicate.membersUnder connective) :
    part.IsPartOf predicate := by
  rcases mem_membersUnder_iff.1 present with ⟨-, present⟩ | ⟨-, rfl⟩
  · exact .member present inner
  · exact inner

theorem IsFlat.members_ne_nil
    (flat : predicate.IsFlat) (same : predicate.connective? = some connective) :
    predicate.members ≠ [] := by
  cases flat with
  | leaf fragments => cases same
  | node several alternate => exact List.length_pos_iff.1 (Nat.zero_lt_of_lt several)

theorem IsFlat.alternate
    {member : RawPredicate} (flat : predicate.IsFlat)
    (same : predicate.connective? = some connective) (present : member ∈ predicate.members) :
    member.connective? ≠ some connective := by
  cases flat with
  | leaf fragments => cases same
  | node several alternate => exact same ▸ alternate member present

/-- A flat predicate contributes something to any node. -/
theorem IsFlat.membersUnder_ne_nil (flat : predicate.IsFlat) (connective : Connective) :
    predicate.membersUnder connective ≠ [] := by
  by_cases same : predicate.connective? = some connective
  · rw [membersUnder_of_eq same]
    exact flat.members_ne_nil same
  · rw [membersUnder_of_ne same]
    exact List.cons_ne_nil _ _

/-- What a flat predicate contributes to a node has another connective. -/
theorem IsFlat.alternate_of_mem_membersUnder
    {member : RawPredicate} (flat : predicate.IsFlat)
    (present : member ∈ predicate.membersUnder connective) :
    member.connective? ≠ some connective := by
  rcases mem_membersUnder_iff.1 present with ⟨same, present⟩ | ⟨different, rfl⟩
  · exact flat.alternate same present
  · exact different

/-- Joining flat predicates gives a flat node. -/
theorem IsFlat.join (connective : Connective) (leftFlat : left.IsFlat) (rightFlat : right.IsFlat) :
    (left.join connective right).IsFlat := by
  refine .node ?_ fun member present => ?_
  · have leftSome := List.length_pos_iff.2 (leftFlat.membersUnder_ne_nil connective)
    have rightSome := List.length_pos_iff.2 (rightFlat.membersUnder_ne_nil connective)
    rw [List.length_append]
    omega
  · rcases List.mem_append.1 present with present | present
    · exact leftFlat.alternate_of_mem_membersUnder present
    · exact rightFlat.alternate_of_mem_membersUnder present

/-- Every part of what is built is flat, by induction on how it is built. -/
theorem Built.isFlat_of_isPartOf
    (built : predicate.Built) {part : RawPredicate} (isPart : part.IsPartOf predicate) :
    part.IsFlat := by
  induction built generalizing part with
  | leaf fragments =>
      cases isPart with
      | self => exact .leaf fragments
      | member present => cases present
  | join connective _ _ leftHypothesis rightHypothesis =>
      cases isPart with
      | self => exact (leftHypothesis (.self _)).join connective (rightHypothesis (.self _))
      | member present inner =>
          rcases List.mem_append.1 present with present | present
          · exact leftHypothesis (inner.of_mem_membersUnder present)
          · exact rightHypothesis (inner.of_mem_membersUnder present)

/-- Members that do not have the connective make up a node when they are joined one by one. -/
theorem Built.node
    {members : List RawPredicate} (several : 2 ≤ members.length)
    (alternate : ∀ member ∈ members, member.connective? ≠ some connective)
    (built : ∀ member ∈ members, member.Built) :
    Built { connective? := some connective, members } := by
  -- The first member is joined to the node of all others, or to the only other one.
  induction members with
  | nil => simp at several
  | cons first members inductionHypothesis =>
      rw [List.forall_mem_cons] at alternate built
      match members with
      | [] => simp at several
      | [second] =>
          rw [← join_of_ne alternate.1 (alternate.2 second (by simp))]
          exact built.1.join connective (built.2 second (by simp))
      | second :: third :: others =>
          rw [← join_node alternate.1]
          exact built.1.join connective (inductionHypothesis (by simp) alternate.2 built.2)

/-- What is flat in all its parts can be built, its members first. -/
theorem built_of_forall_isFlat
    (predicate : RawPredicate)
    (flat : ∀ part : RawPredicate, part.IsPartOf predicate → part.IsFlat) :
    predicate.Built := by
  induction predicate using members_induction with
  | fields fragments connective? members inductionHypothesis =>
      have built : ∀ member ∈ members, member.Built := fun member present =>
        inductionHypothesis member present fun part inner => flat part (.member present inner)
      cases flat _ (.self _) with
      | leaf => exact .leaf fragments
      | node several alternate => exact .node several alternate built

end RawPredicate

/-! ## The fields of predicates -/

namespace Predicate

/-- A predicate contributes the fields of its members. -/
theorem map_raw_membersUnder (connective : Connective) (predicate : Predicate) :
    (predicate.membersUnder connective).map raw = predicate.raw.membersUnder connective := by
  cases predicate with
  | atom condition =>
      rw [membersUnder, RawPredicate.membersUnder_of_ne (by simp [connective?]),
        List.map_singleton]
  | node own members =>
      rw [membersUnder]
      split
      · next same =>
          rw [RawPredicate.membersUnder_of_eq (by simpa [connective?] using same), members_raw,
            Predicate.members]
      · next different =>
          rw [RawPredicate.membersUnder_of_ne (by simpa [connective?] using different),
            List.map_singleton]

/-- Predicates are joined as their fields are. -/
theorem raw_join (connective : Connective) (left right : Predicate) :
    (left.join connective right).raw = left.raw.join connective right.raw := by
  rw [join, raw, List.map_append, map_raw_membersUnder, map_raw_membersUnder, RawPredicate.join]

/-- What is built has built fields. -/
theorem Built.raw {predicate : Predicate} (built : predicate.Built) : predicate.raw.Built := by
  induction built with
  | atom condition =>
      rw [Predicate.raw]
      exact .leaf condition.pieces
  | join connective _ _ leftHypothesis rightHypothesis =>
      rw [raw_join]
      exact leftHypothesis.join connective rightHypothesis

/-- The truth of a predicate is that of its fields. -/
theorem eval_raw (leafTruth : List Piece → Bool) (predicate : Predicate) :
    predicate.raw.eval leafTruth = predicate.eval fun condition => leafTruth condition.pieces := by
  induction predicate using members_induction with
  | atom condition => rw [raw, RawPredicate.eval, eval_atom]
  | node connective members inductionHypothesis =>
      have image : members.map (RawPredicate.eval leafTruth ∘ raw) =
          members.map (eval fun condition => leafTruth condition.pieces) :=
        List.map_congr_left inductionHypothesis
      rw [raw, RawPredicate.eval, List.map_map, image]
      cases connective <;> simp [Connective.truth]

theorem membersUnder_join (connective : Connective) (left right : Predicate) :
    (left.join connective right).membersUnder connective =
      left.membersUnder connective ++ right.membersUnder connective :=
  if_pos rfl

/-- Joining predicates is associative. -/
theorem join_assoc (connective : Connective) (first second third : Predicate) :
    (first.join connective second).join connective third =
      first.join connective (second.join connective third) := by
  rw [join, membersUnder_join, join, membersUnder_join, List.append_assoc]

/-- The values of what is joined are those of both sides, in order. -/
theorem params_join (connective : Connective) (left right : Predicate) :
    (left.join connective right).params = left.params ++ right.params := by
  simp only [params_eq_flatMap, atoms_join, List.flatMap_append]

theorem joinsFaithfully : JoinsFaithfully join params eval where
  assoc := join_assoc
  params_join := params_join
  eval_and := eval_join_and
  eval_or := eval_join_or

end Predicate

/--
What is built by joining leaves of any fragments is exactly what is flat in all
its parts.  Joining raw predicates is associative, and it is faithful to values
and truth.

The predicates that are compiled and rendered have such fields: what is built
has built fields, and joining, values and truth are those of the fields.
Joining them is associative as well, and as faithful.
-/
theorem built_iff_flat_and_joins_faithfully :
    (∀ predicate : RawPredicate,
      predicate.Built ↔ ∀ part : RawPredicate, part.IsPartOf predicate → part.IsFlat) ∧
    JoinsFaithfully RawPredicate.join RawPredicate.params RawPredicate.eval ∧
    (∀ predicate : Predicate, predicate.Built → predicate.raw.Built) ∧
    (∀ connective (left right : Predicate),
      (left.join connective right).raw = left.raw.join connective right.raw) ∧
    (∀ predicate : Predicate, predicate.raw.params = predicate.params) ∧
    (∀ (leafTruth : List Piece → Bool) (predicate : Predicate),
      predicate.raw.eval leafTruth =
        predicate.eval fun condition => leafTruth condition.pieces) ∧
    JoinsFaithfully Predicate.join Predicate.params Predicate.eval := by
  refine ⟨fun predicate => ⟨fun built part isPart => ?_, predicate.built_of_forall_isFlat⟩,
    RawPredicate.joinsFaithfully, fun predicate built => ?_, ?_, ?_, ?_,
    Predicate.joinsFaithfully⟩
  · exact built.isFlat_of_isPartOf isPart
  · exact built.raw
  · exact Predicate.raw_join
  · exact Predicate.params_raw
  · exact Predicate.eval_raw

/--
Groups in groups are built, so they are flat in every part; the inner
conjunction is spliced, which leaves three members with five values.
-/
theorem built_iff_flat_and_joins_faithfully_nested :
    Sample.nested.Built ∧
    Sample.nested.raw.Built ∧
    (∀ part : RawPredicate, part.IsPartOf Sample.nested.raw → part.IsFlat) ∧
    Sample.nested.raw.members.length = 3 ∧
    Sample.nested.raw.params = List.replicate 5 (.int 1) := by
  obtain ⟨flat, -, built, -, params, -⟩ := built_iff_flat_and_joins_faithfully
  have rawBuilt := built Sample.nested Sample.nested_built
  refine ⟨Sample.nested_built, rawBuilt, (flat _).1 rawBuilt, ?_, ?_⟩
  · rw [Predicate.members_raw, List.length_map]
    rfl
  · exact (params Sample.nested).trans rfl

end Sql
end RowFilter
