import RowFilter.Proofs.Sql.Written

/-!
# Raw predicates

A raw predicate is its fields, and its type keeps none of them from standing
beside the others: a leaf may have members, and a node fragments of text.  It
is joined, valued and rendered as its fields say, the members of a node one
after the other into the same sink.

Predicates have such fields, and they have the values and the rendering of
their fields.
-/

namespace RowFilter
namespace Sql

/-! ## The values among pieces -/

/-- The value of a piece that is one. -/
def Piece.value? : Piece → Option Value
  | text _ => none
  | param value => some value

/-- The values among pieces, from left to right. -/
def values (pieces : List Piece) : List Value :=
  pieces.filterMap Piece.value?

@[simp] theorem values_nil : values [] = [] := rfl

@[simp] theorem values_text (content : String) (pieces : List Piece) :
    values (.text content :: pieces) = values pieces := rfl

@[simp] theorem values_param (value : Value) (pieces : List Piece) :
    values (.param value :: pieces) = value :: values pieces := rfl

@[simp] theorem values_append (left right : List Piece) :
    values (left ++ right) = values left ++ values right :=
  List.filterMap_append

/-- The values among the pieces of a condition are its values. -/
theorem values_atom (condition : Atom) : values condition.pieces = condition.params := by
  have listed (others : List Value) :
      values (others.flatMap fun value => [.text ", ", .param value]) = others := by
    induction others with
    | nil => rfl
    | cons value others inductionHypothesis => simp [inductionHypothesis]
  cases condition with
  | among column first others => simp [Atom.pieces, Atom.params, listed]
  | _ => rfl

/-- The text between the members of a node holds no values. -/
theorem values_intercalate (connective : Connective) (groups : List (List Piece)) :
    values ([Predicate.between connective].intercalate groups) = groups.flatMap values :=
  filterMap_intercalate rfl groups

/-! ## Fields -/

/-- A predicate as its fields, of which none rules out another. -/
structure RawPredicate where
  /-- Text, with values in their places. -/
  fragments : List Piece := []
  /-- How the members are joined. -/
  connective? : Option Connective := none
  /-- The predicates that are joined. -/
  members : List RawPredicate := []

namespace RawPredicate

/-- Induction on raw predicates, where the members come as a list. -/
@[elab_as_elim]
theorem members_induction
    {motive : RawPredicate → Prop}
    (fields : ∀ fragments connective? members,
      (∀ member ∈ members, motive member) → motive { fragments, connective?, members })
    (predicate : RawPredicate) :
    motive predicate :=
  @RawPredicate.rec motive (fun members => ∀ member ∈ members, motive member)
    fields (by simp)
    (fun _ _ first others => List.forall_mem_cons.2 ⟨first, others⟩) predicate

/-- The members that a raw predicate contributes to a node of the given connective. -/
def membersUnder (connective : Connective) (predicate : RawPredicate) : List RawPredicate :=
  if predicate.connective? = some connective then predicate.members else [predicate]

/-- Two raw predicates joined by a connective. -/
def join (connective : Connective) (left right : RawPredicate) : RawPredicate where
  connective? := some connective
  members := left.membersUnder connective ++ right.membersUnder connective

variable {connective : Connective} {predicate left right : RawPredicate}

/-- To a node of its own connective a predicate contributes its members. -/
theorem membersUnder_of_eq (same : predicate.connective? = some connective) :
    predicate.membersUnder connective = predicate.members :=
  if_pos same

/-- To any other node a predicate contributes itself. -/
theorem membersUnder_of_ne (different : predicate.connective? ≠ some connective) :
    predicate.membersUnder connective = [predicate] :=
  if_neg different

/-- Operands with other connectives are the members of a new node. -/
theorem join_of_ne
    (leftDifferent : left.connective? ≠ some connective)
    (rightDifferent : right.connective? ≠ some connective) :
    left.join connective right =
      { connective? := some connective, members := [left, right] } := by
  rw [join, membersUnder_of_ne leftDifferent, membersUnder_of_ne rightDifferent,
    List.singleton_append]

/-- The values of a raw predicate: those of its fragments, or those of its members. -/
def params : RawPredicate → List Value
  | { fragments, connective? := none, .. } => values fragments
  | { connective? := some _, members, .. } => members.flatMap params

/-! ## Rendering -/

/-- The text of a member, in parentheses if the member is a node. -/
def enclosedText (connective? : Option Connective) (text : String) : String :=
  if connective?.isSome then "(" ++ text ++ ")" else text

mutual

/-- Writes a raw predicate into a sink: its fragments, or its members one after the other. -/
def render : RawPredicate → Sink → String × Sink
  | { fragments, connective? := none, .. }, sink => Sql.render fragments sink
  | { connective? := some connective, members, .. }, sink =>
      let written := renderMembers members sink
      (String.intercalate (" " ++ connective.keyword ++ " ") written.1, written.2)

/-- Writes each member into the sink that the members before it leave. -/
def renderMembers : List RawPredicate → Sink → List String × Sink
  | [], sink => ([], sink)
  | member :: members, sink =>
      let first := member.render sink
      let others := renderMembers members first.2
      (enclosedText member.connective? first.1 :: others.1, others.2)

end

/-- The pieces of a member, in parentheses if the member is a node. -/
def enclosed (connective? : Option Connective) (pieces : List Piece) : List Piece :=
  if connective?.isSome then Predicate.parenthesized pieces else pieces

/-- The pieces that a raw predicate is rendered from. -/
def pieces : RawPredicate → List Piece
  | { fragments, connective? := none, .. } => fragments
  | { connective? := some connective, members, .. } =>
      [Predicate.between connective].intercalate
        (members.map fun member => enclosed member.connective? member.pieces)

/-- Parentheses hold no values. -/
theorem values_enclosed (connective? : Option Connective) (pieces : List Piece) :
    values (enclosed connective? pieces) = values pieces := by
  cases connective? <;> simp [enclosed, Predicate.parenthesized]

/-- The values among the pieces of a raw predicate are its values. -/
theorem values_pieces (predicate : RawPredicate) : values predicate.pieces = predicate.params := by
  induction predicate using members_induction with
  | fields fragments connective? members inductionHypothesis =>
      cases connective? with
      | none => rw [pieces, params]
      | some connective =>
          rw [pieces, params, values_intercalate, List.flatMap_map]
          simp only [values_enclosed]
          exact List.flatMap_congr inductionHypothesis

/-- Parentheses are written around the pieces and bind nothing. -/
theorem render_enclosed (connective? : Option Connective) (pieces : List Piece) (sink : Sink) :
    Sql.render (enclosed connective? pieces) sink =
      (enclosedText connective? (Sql.render pieces sink).1, (Sql.render pieces sink).2) := by
  cases connective? with
  | none => rfl
  | some connective =>
      simp [enclosed, enclosedText, Predicate.parenthesized, Sql.render, render_append,
        String.append_assoc]

/-- The text between members is written as it is. -/
theorem render_between (connective : Connective) (pieces : List Piece) (sink : Sink) :
    Sql.render (Predicate.between connective :: pieces) sink =
      (" " ++ connective.keyword ++ " " ++ (Sql.render pieces sink).1,
        (Sql.render pieces sink).2) :=
  rfl

/-- Members that are rendered from their pieces make up a node that is. -/
theorem render_members
    (connective : Connective) {members : List RawPredicate}
    (each : ∀ member ∈ members, ∀ sink, member.render sink = Sql.render member.pieces sink)
    (sink : Sink) :
    Sql.render
        ([Predicate.between connective].intercalate
          (members.map fun member => enclosed member.connective? member.pieces)) sink =
      (String.intercalate (" " ++ connective.keyword ++ " ") (renderMembers members sink).1,
        (renderMembers members sink).2) := by
  induction members generalizing sink with
  | nil => rfl
  | cons member members inductionHypothesis =>
      rw [List.forall_mem_cons] at each
      cases members with
      | nil =>
          simp [renderMembers, render_enclosed, each.1]
      | cons other members =>
          have rest := inductionHypothesis each.2 (member.render sink).2
          rw [List.map_cons] at rest
          rw [List.map_cons, List.map_cons, List.intercalate_cons_cons, List.append_assoc,
            render_append, render_enclosed, ← each.1, List.singleton_append, render_between, rest]
          simp [renderMembers, String.append_assoc]

/-- Writing member by member is rendering the pieces of the whole. -/
theorem render_eq (predicate : RawPredicate) (sink : Sink) :
    predicate.render sink = Sql.render predicate.pieces sink := by
  induction predicate using members_induction generalizing sink with
  | fields fragments connective? members inductionHypothesis =>
      cases connective? with
      | none => rw [render, pieces]
      | some connective => rw [render, pieces, render_members connective inductionHypothesis]

end RawPredicate

/-! ## The fields of predicates -/

namespace Predicate

/-- The fields of a predicate. -/
def raw : Predicate → RawPredicate
  | atom condition => { fragments := condition.pieces }
  | node connective members => { connective? := some connective, members := members.map raw }

@[simp] theorem connective?_raw (predicate : Predicate) :
    predicate.raw.connective? = predicate.connective? := by
  cases predicate <;> rw [raw] <;> rfl

@[simp] theorem members_raw (predicate : Predicate) :
    predicate.raw.members = predicate.members.map raw := by
  cases predicate <;> rw [raw] <;> rfl

theorem memberParams_eq_flatMap (members : List Predicate) :
    memberParams members = members.flatMap params := by
  induction members with
  | nil => rfl
  | cons member members inductionHypothesis =>
      rw [memberParams, inductionHypothesis, List.flatMap_cons]

/-- The values of a predicate are those of its atoms, one atom after the other. -/
theorem params_eq_flatMap (predicate : Predicate) :
    predicate.params = predicate.atoms.flatMap Atom.params := by
  induction predicate using members_induction with
  | atom condition => simp [params]
  | node connective members inductionHypothesis =>
      rw [params, atoms_node, memberParams_eq_flatMap, List.flatMap_assoc]
      exact List.flatMap_congr inductionHypothesis

/-- The values of a predicate are those of its fields. -/
theorem params_raw (predicate : Predicate) : predicate.raw.params = predicate.params := by
  induction predicate using members_induction with
  | atom condition => rw [raw, RawPredicate.params, values_atom, params]
  | node connective members inductionHypothesis =>
      rw [raw, RawPredicate.params, List.flatMap_map, params, memberParams_eq_flatMap]
      exact List.flatMap_congr inductionHypothesis

/-- A member of a node stands in parentheses when it is a node. -/
theorem groupPieces_eq_enclosed (predicate : Predicate) :
    groupPieces predicate = RawPredicate.enclosed predicate.connective? predicate.pieces := by
  cases predicate <;> rfl

/-- A predicate is rendered from the pieces of its fields. -/
theorem pieces_raw (predicate : Predicate) : predicate.raw.pieces = predicate.pieces := by
  induction predicate using members_induction with
  | atom condition => rw [raw, RawPredicate.pieces, pieces]
  | node connective members inductionHypothesis =>
      have same : ∀ member ∈ members,
          RawPredicate.enclosed member.raw.connective? member.raw.pieces = groupPieces member := by
        intro member present
        rw [groupPieces_eq_enclosed, connective?_raw, inductionHypothesis member present]
      rw [raw, RawPredicate.pieces, pieces, memberPieces_eq_intercalate, List.map_map]
      exact congrArg _ (List.map_congr_left same)

/-- A predicate is rendered as its fields are. -/
theorem render_raw (predicate : Predicate) (sink : Sink) :
    predicate.raw.render sink = predicate.render sink := by
  rw [RawPredicate.render_eq, pieces_raw, render]

end Predicate
end Sql
end RowFilter
