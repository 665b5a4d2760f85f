import RowFilter.Proofs.Sql.Predicate

/-!
# Reading conditions token by token

A condition is a sequence of leaves, connectives and parentheses.  Reading
follows the usual grammar: a disjunction of conjunctions of leaves and
parenthesized groups, so AND binds tighter than OR.  A flat predicate is read
back from its own tokens.
-/

namespace RowFilter
namespace Sql

/-- A token of a condition. -/
inductive Token (Leaf : Type) where
  /-- A condition on one column. -/
  | leaf (condition : Leaf)
  /-- The keyword of a connective. -/
  | connective (connective : Connective)
  /-- An opening parenthesis. -/
  | opening
  /-- A closing parenthesis. -/
  | closing
deriving DecidableEq

/-! ## The tokens of a predicate -/

namespace Predicate

mutual

/-- The tokens of a predicate; members of a node that are nodes stand in parentheses. -/
def tokens : Predicate → List (Token Atom)
  | atom condition => [.leaf condition]
  | node connective members => memberTokens connective members

/-- The tokens of the members of a node, the connective between neighbours. -/
def memberTokens (connective : Connective) : List Predicate → List (Token Atom)
  | [] => []
  | [member] => groupTokens member
  | member :: other :: members =>
      groupTokens member ++ .connective connective :: memberTokens connective (other :: members)

/-- The tokens of a member of a node. -/
def groupTokens : Predicate → List (Token Atom)
  | atom condition => [.leaf condition]
  | node connective members => .opening :: memberTokens connective members ++ [.closing]

end

end Predicate

/-- The pieces of a token. -/
def Token.pieces : Token Atom → List Piece
  | leaf condition => condition.pieces
  | connective joining => [Predicate.between joining]
  | opening => [.text "("]
  | closing => [.text ")"]

/-! ## Lists with separators -/

/-- What stands for each element may be put in its place before or after pieces are joined. -/
theorem flatMap_intercalate
    {α β : Type} (image : α → List β) (separator : List α) (pieces : List (List α)) :
    (separator.intercalate pieces).flatMap image =
      (separator.flatMap image).intercalate (pieces.map (List.flatMap image)) := by
  induction pieces with
  | nil => rfl
  | cons first others inductionHypothesis =>
      cases others with
      | nil => simp
      | cons second others =>
          rw [List.intercalate_cons_cons, List.flatMap_append, List.flatMap_append,
            inductionHypothesis]
          simp [List.intercalate_cons_cons]

theorem map_intercalate
    {α β : Type} (image : α → β) (separator : List α) (pieces : List (List α)) :
    (separator.intercalate pieces).map image =
      (separator.map image).intercalate (pieces.map (List.map image)) := by
  have mapped := flatMap_intercalate (fun element => [image element]) separator pieces
  rw [← List.map_eq_flatMap, ← List.map_eq_flatMap] at mapped
  rw [mapped]
  exact congrArg _ (List.map_congr_left fun piece _ => List.map_eq_flatMap.symm)

/-- A separator that is not seen leaves what is seen of the pieces. -/
theorem filterMap_intercalate
    {α β : Type} {view : α → Option β} {separator : List α}
    (hidden : separator.filterMap view = []) (pieces : List (List α)) :
    (separator.intercalate pieces).filterMap view = pieces.flatMap (List.filterMap view) := by
  induction pieces with
  | nil => rfl
  | cons first others inductionHypothesis =>
      cases others with
      | nil => simp
      | cons second others =>
          rw [List.intercalate_cons_cons, List.filterMap_append, List.filterMap_append, hidden,
            List.append_nil, inductionHypothesis, ← List.flatMap_cons]

namespace Predicate

/-- The tokens of members are joined by the connective. -/
theorem memberTokens_eq_intercalate (connective : Connective) (members : List Predicate) :
    memberTokens connective members =
      [.connective connective].intercalate (members.map groupTokens) := by
  induction members with
  | nil => rfl
  | cons member members inductionHypothesis =>
      cases members with
      | nil => simp [memberTokens]
      | cons other members =>
          rw [memberTokens, inductionHypothesis]
          simp [List.intercalate_cons_cons]

/-- The pieces of members are joined by the connective. -/
theorem memberPieces_eq_intercalate (connective : Connective) (members : List Predicate) :
    memberPieces connective members =
      [between connective].intercalate (members.map groupPieces) := by
  induction members with
  | nil => rfl
  | cons member members inductionHypothesis =>
      cases members with
      | nil => simp [memberPieces]
      | cons other members =>
          rw [memberPieces, inductionHypothesis]
          simp [List.intercalate_cons_cons]

/-- The pieces of members are those of their tokens, if it is so for each member. -/
theorem memberPieces_eq_flatMap
    (connective : Connective) {members : List Predicate}
    (each : ∀ member ∈ members, groupPieces member = (groupTokens member).flatMap Token.pieces) :
    memberPieces connective members =
      (memberTokens connective members).flatMap Token.pieces := by
  have between_eq : [Token.connective connective].flatMap Token.pieces = [between connective] := rfl
  rw [memberPieces_eq_intercalate, memberTokens_eq_intercalate, flatMap_intercalate, between_eq,
    List.map_map]
  exact congrArg _ (List.map_congr_left each)

/-- The pieces of a member of a node are those of its tokens. -/
theorem groupPieces_eq_flatMap (predicate : Predicate) :
    groupPieces predicate = (groupTokens predicate).flatMap Token.pieces := by
  induction predicate using members_induction with
  | atom condition => simp [groupPieces, groupTokens, Token.pieces]
  | node connective members inductionHypothesis =>
      rw [groupPieces, groupTokens, memberPieces_eq_flatMap connective inductionHypothesis]
      simp [parenthesized, Token.pieces]

/-- The pieces of a predicate are those of its tokens. -/
theorem pieces_eq_flatMap (predicate : Predicate) :
    predicate.pieces = predicate.tokens.flatMap Token.pieces := by
  cases predicate with
  | atom condition => simp [pieces, tokens, Token.pieces]
  | node connective members =>
      exact memberPieces_eq_flatMap connective fun member _ => groupPieces_eq_flatMap member

end Predicate

/-! ## The leaves among the tokens -/

/-- The condition of a leaf. -/
def Token.leaf? {Leaf : Type} : Token Leaf → Option Leaf
  | leaf condition => some condition
  | _ => none

namespace Predicate

/-- The leaves among the tokens of members are their atoms, if it is so for each member. -/
theorem filterMap_leaf?_memberTokens
    (connective : Connective) {members : List Predicate}
    (each : ∀ member ∈ members, (groupTokens member).filterMap Token.leaf? = member.atoms) :
    (memberTokens connective members).filterMap Token.leaf? = members.flatMap atoms := by
  rw [memberTokens_eq_intercalate, filterMap_intercalate rfl, List.flatMap_map]
  exact List.flatMap_congr each

/-- The leaves among the tokens of a member of a node are its atoms. -/
theorem filterMap_leaf?_groupTokens (predicate : Predicate) :
    (groupTokens predicate).filterMap Token.leaf? = predicate.atoms := by
  induction predicate using members_induction with
  | atom condition => rfl
  | node connective members inductionHypothesis =>
      rw [groupTokens, List.cons_append, List.filterMap_cons_none (by rfl),
        List.filterMap_append, filterMap_leaf?_memberTokens connective inductionHypothesis,
        atoms_node]
      exact List.append_nil _

/-- The leaves among the tokens of a predicate are its atoms. -/
theorem filterMap_leaf?_tokens (predicate : Predicate) :
    predicate.tokens.filterMap Token.leaf? = predicate.atoms := by
  cases predicate with
  | atom condition => rfl
  | node connective members =>
      rw [tokens, atoms_node]
      exact filterMap_leaf?_memberTokens connective
        fun member _ => filterMap_leaf?_groupTokens member

end Predicate

/-! ## Reading -/

/-- Predicates under a connective, the latest first; a single one stands for itself. -/
def gather (connective : Connective) : List Predicate → Predicate
  | [member] => member
  | members => .node connective members.reverse

/-- What has been read between a pair of parentheses. -/
structure Frame where
  /-- The finished members of the disjunction, the latest first. -/
  alternatives : List Predicate := []
  /-- The members of the conjunction under way, the latest first. -/
  operands : List Predicate := []

namespace Frame

/-- A frame with one more member of the conjunction under way. -/
def add (predicate : Predicate) (frame : Frame) : Frame :=
  { frame with operands := predicate :: frame.operands }

/-- A frame whose conjunction is finished. -/
def next (frame : Frame) : Frame where
  alternatives := gather .and frame.operands :: frame.alternatives

/-- The predicate of a frame that is complete. -/
def predicate (frame : Frame) : Predicate :=
  gather .or frame.next.alternatives

end Frame

mutual

/-- Reads tokens from where a leaf or a group is expected; `outer` are the frames around. -/
def readOperand (frame : Frame) (outer : List Frame) : List (Token Atom) → Option Predicate
  | .leaf condition :: rest => readConnective (frame.add (.atom condition)) outer rest
  | .opening :: rest => readOperand {} (frame :: outer) rest
  | _ => none

/-- Reads tokens from where a leaf or a group has just ended. -/
def readConnective (frame : Frame) (outer : List Frame) : List (Token Atom) → Option Predicate
  | [] => if outer.isEmpty then some frame.predicate else none
  | .connective .and :: rest => readOperand frame outer rest
  | .connective .or :: rest => readOperand frame.next outer rest
  | .closing :: rest =>
      match outer with
      | [] => none
      | enclosing :: outer => readConnective (enclosing.add frame.predicate) outer rest
  | _ => none

end

/-- The predicate that a sequence of tokens denotes. -/
def read? (tokens : List (Token Atom)) : Option Predicate :=
  readOperand {} [] tokens

/-- Two members or more are gathered under a node of their own. -/
theorem gather_reverse
    (connective : Connective) {members : List Predicate} (several : 2 ≤ members.length) :
    gather connective members.reverse = .node connective members := by
  cases reversed : members.reverse with
  | nil => simp [List.reverse_eq_nil_iff.1 reversed] at several
  | cons last others =>
      cases others with
      | nil =>
          rw [← List.length_reverse, reversed] at several
          simp at several
      | cons => rw [gather, ← reversed, List.reverse_reverse]; simp

end Sql
end RowFilter
