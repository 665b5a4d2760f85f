import RowFilter.Proofs.Sql.Token

/-!
# The grammar of conditions

A condition is a disjunction of conjunctions of operands, and an operand is a
leaf or a condition in parentheses.  What a condition stands for follows from
what its leaves and connectives stand for: predicates give the tree of a
condition, truth values its truth.

Reading follows the grammar exactly, so no condition has two trees, and the
tokens of a flat predicate have that predicate as their tree.
-/

namespace RowFilter
namespace Sql

/-- What leaves and members under a connective stand for; a single member stands for itself. -/
structure Interpretation (Meaning : Type) where
  /-- The meaning of a condition on one column. -/
  leaf : Atom → Meaning
  /-- The meaning of members under a connective. -/
  join : Connective → List Meaning → Meaning
  /-- A single member stands for itself. -/
  join_singleton : ∀ connective meaning, join connective [meaning] = meaning

/-- The levels of the grammar, the one that binds tightest first. -/
inductive Level where
  /-- A leaf, or a condition in parentheses. -/
  | operand
  /-- Operands with AND between neighbours. -/
  | conjunction
  /-- Conjunctions with OR between neighbours. -/
  | disjunction

variable {Meaning : Type}

/--
Tokens of a level and the meanings of their parts: one for an operand, one for
each operand of a conjunction, one for each conjunction of a disjunction.
-/
inductive Derives (interpretation : Interpretation Meaning) :
    Level → List (Token Atom) → List Meaning → Prop where
  /-- A leaf is an operand. -/
  | leaf (condition : Atom) :
      Derives interpretation .operand [.leaf condition] [interpretation.leaf condition]
  /-- So is a disjunction in parentheses. -/
  | group {tokens : List (Token Atom)} {meanings : List Meaning}
      (inner : Derives interpretation .disjunction tokens meanings) :
      Derives interpretation .operand (.opening :: tokens ++ [.closing])
        [interpretation.join .or meanings]
  /-- An operand is a conjunction. -/
  | operand {tokens : List (Token Atom)} {meaning : Meaning}
      (only : Derives interpretation .operand tokens [meaning]) :
      Derives interpretation .conjunction tokens [meaning]
  /-- AND goes between an operand and a conjunction. -/
  | and {tokens rest : List (Token Atom)} {meaning : Meaning} {meanings : List Meaning}
      (first : Derives interpretation .operand tokens [meaning])
      (others : Derives interpretation .conjunction rest meanings) :
      Derives interpretation .conjunction (tokens ++ .connective .and :: rest)
        (meaning :: meanings)
  /-- A conjunction is a disjunction. -/
  | conjunction {tokens : List (Token Atom)} {meanings : List Meaning}
      (only : Derives interpretation .conjunction tokens meanings) :
      Derives interpretation .disjunction tokens [interpretation.join .and meanings]
  /-- OR goes between a conjunction and a disjunction. -/
  | or {tokens rest : List (Token Atom)} {meanings alternatives : List Meaning}
      (first : Derives interpretation .conjunction tokens meanings)
      (others : Derives interpretation .disjunction rest alternatives) :
      Derives interpretation .disjunction (tokens ++ .connective .or :: rest)
        (interpretation.join .and meanings :: alternatives)

/-- Tokens are a condition with the given meaning. -/
def Denotes (interpretation : Interpretation Meaning) (tokens : List (Token Atom))
    (meaning : Meaning) : Prop :=
  ∃ alternatives, Derives interpretation .disjunction tokens alternatives ∧
    interpretation.join .or alternatives = meaning

/-- Predicates, as they are built: members under a connective make up a node. -/
def Interpretation.tree : Interpretation Predicate where
  leaf := .atom
  join connective members := gather connective members.reverse
  join_singleton _ _ := rfl

/-! ## Reading follows the grammar -/

/-- A frame with several more members of the conjunction under way. -/
def Frame.addAll (frame : Frame) (members : List Predicate) : Frame :=
  { frame with operands := members.reverse ++ frame.operands }

/-- Operands may be added in two steps. -/
theorem Frame.addAll_addAll (frame : Frame) (first second : List Predicate) :
    (frame.addAll first).addAll second = frame.addAll (first ++ second) := by
  simp [addAll]

/-- Tokens of a level are read into a frame, whatever frames are around and whatever comes next. -/
def IsReadAs : Level → List (Token Atom) → List Predicate → Prop
  | .disjunction, tokens, members =>
      ∀ alternatives, ∃ final : Frame,
        final.next.alternatives = members.reverse ++ alternatives ∧
        ∀ outer rest,
          readOperand { alternatives } outer (tokens ++ rest) = readConnective final outer rest
  | _, tokens, members =>
      ∀ (frame : Frame) (outer : List Frame) (rest : List (Token Atom)),
        readOperand frame outer (tokens ++ rest) =
          readConnective (frame.addAll members) outer rest

/-- What the grammar derives is read as it is derived, whatever comes after it. -/
theorem Derives.isReadAs
    {level : Level} {tokens : List (Token Atom)} {members : List Predicate}
    (derives : Derives .tree level tokens members) :
    IsReadAs level tokens members := by
  induction derives with
  | leaf condition => exact fun frame outer rest => rfl
  | @group tokens members _ inductionHypothesis =>
      intro frame outer rest
      obtain ⟨final, alternatives, reads⟩ := inductionHypothesis []
      have complete : final.predicate = Interpretation.tree.join .or members := by
        rw [Frame.predicate, alternatives, List.append_nil]
        rfl
      rw [List.append_assoc, List.cons_append, readOperand, reads, List.singleton_append,
        readConnective, complete]
      rfl
  | operand _ inductionHypothesis => exact inductionHypothesis
  | and _ _ firstHypothesis othersHypothesis =>
      intro frame outer rest
      rw [List.append_assoc, firstHypothesis, List.cons_append, readConnective,
        othersHypothesis, Frame.addAll_addAll, List.singleton_append]
  | @conjunction tokens members _ inductionHypothesis =>
      intro alternatives
      refine ⟨Frame.addAll { alternatives } members, ?_, inductionHypothesis _⟩
      simp [Frame.addAll, Frame.next, Interpretation.tree]
  | @or tokens rest members alternatives _ _ firstHypothesis othersHypothesis =>
      intro finished
      obtain ⟨final, finalAlternatives, reads⟩ :=
        othersHypothesis (Interpretation.tree.join .and members :: finished)
      refine ⟨final, by simp [finalAlternatives], fun outer later => ?_⟩
      have conjunction : (Frame.addAll { alternatives := finished } members).next =
          { alternatives := Interpretation.tree.join .and members :: finished } := by
        simp [Frame.addAll, Frame.next, Interpretation.tree]
      rw [List.append_assoc, firstHypothesis, List.cons_append, readConnective, conjunction]
      exact reads outer later

/-- A condition with a tree is read as that tree. -/
theorem Denotes.read?_eq
    {tokens : List (Token Atom)} {predicate : Predicate}
    (denotes : Denotes .tree tokens predicate) :
    read? tokens = some predicate := by
  obtain ⟨members, derives, rfl⟩ := denotes
  obtain ⟨final, alternatives, reads⟩ := derives.isReadAs []
  have finished := reads [] []
  rw [List.append_nil] at finished
  rw [read?, finished, readConnective, Frame.predicate, alternatives, List.append_nil]
  rfl

/-- A conjunction may be continued at its end. -/
theorem Derives.and_last
    {interpretation : Interpretation Meaning}
    {tokens last : List (Token Atom)} {meanings : List Meaning} {meaning : Meaning}
    (derives : Derives interpretation .conjunction tokens meanings)
    (next : Derives interpretation .operand last [meaning]) :
    Derives interpretation .conjunction (tokens ++ .connective .and :: last)
      (meanings ++ [meaning]) := by
  generalize conjunction : Level.conjunction = level at derives
  induction derives with
  | operand only _ => exact .and only (.operand next)
  | and first _ _ othersHypothesis =>
      rw [List.append_assoc, List.cons_append, List.cons_append]
      exact .and first (othersHypothesis conjunction)
  | _ => cases conjunction

/-- A disjunction may be continued at its end. -/
theorem Derives.or_last
    {interpretation : Interpretation Meaning}
    {tokens last : List (Token Atom)} {alternatives meanings : List Meaning}
    (derives : Derives interpretation .disjunction tokens alternatives)
    (next : Derives interpretation .conjunction last meanings) :
    Derives interpretation .disjunction (tokens ++ .connective .or :: last)
      (alternatives ++ [interpretation.join .and meanings]) := by
  generalize disjunction : Level.disjunction = level at derives
  induction derives with
  | conjunction only _ => exact .or only (.conjunction next)
  | or first _ _ othersHypothesis =>
      rw [List.append_assoc, List.cons_append, List.cons_append]
      exact .or first (othersHypothesis disjunction)
  | _ => cases disjunction

/-- The finished members of a frame have been read from tokens that OR follows, if any. -/
inductive Frame.Alternates : List (Token Atom) → List Predicate → Prop where
  /-- Nothing is finished. -/
  | none : Alternates [] []
  /-- The tokens are a disjunction with OR after it. -/
  | some {tokens : List (Token Atom)} {alternatives : List Predicate}
      (derives : Derives .tree .disjunction tokens alternatives.reverse) :
      Alternates (tokens ++ [.connective .or]) alternatives

/-- The tokens that have been read into a frame whose last token ends an operand. -/
def Frame.HasRead (frame : Frame) (tokens : List (Token Atom)) : Prop :=
  ∃ before conjunction, tokens = before ++ conjunction ∧
    Frame.Alternates before frame.alternatives ∧
    Derives .tree .conjunction conjunction frame.operands.reverse

/-- The tokens that have been read into a frame where an operand comes next. -/
def Frame.Expects (frame : Frame) (tokens : List (Token Atom)) : Prop :=
  (Frame.Alternates tokens frame.alternatives ∧ frame.operands = []) ∨
    ∃ before, tokens = before ++ [.connective .and] ∧ frame.HasRead before

/-- Once a conjunction is finished, the alternatives so far are a disjunction. -/
theorem Frame.HasRead.derives_next
    {frame : Frame} {tokens : List (Token Atom)} (hasRead : frame.HasRead tokens) :
    Derives .tree .disjunction tokens frame.next.alternatives.reverse := by
  obtain ⟨before, conjunction, rfl, alternates, derives⟩ := hasRead
  have joined : gather .and frame.operands =
      Interpretation.tree.join .and frame.operands.reverse := by
    simp [Interpretation.tree]
  rw [Frame.next, List.reverse_cons, joined]
  generalize frame.alternatives = alternatives at alternates
  cases alternates with
  | none => exact .conjunction derives
  | some finished =>
      rw [List.append_assoc, List.singleton_append]
      exact finished.or_last derives

/-- After an alternative and a keyword the next alternative is expected. -/
theorem Frame.HasRead.expects_or
    {frame : Frame} {tokens : List (Token Atom)} (hasRead : frame.HasRead tokens) :
    frame.next.Expects (tokens ++ [.connective .or]) :=
  .inl ⟨.some hasRead.derives_next, rfl⟩

/-- Where an operand is expected, an operand completes what has been read. -/
theorem Frame.Expects.hasRead_add
    {frame : Frame} {tokens operand : List (Token Atom)} {predicate : Predicate}
    (expects : frame.Expects tokens) (derives : Derives .tree .operand operand [predicate]) :
    (frame.add predicate).HasRead (tokens ++ operand) := by
  rcases expects with ⟨alternates, noOperands⟩ | ⟨before, rfl, hasRead⟩
  · refine ⟨tokens, operand, rfl, alternates, ?_⟩
    rw [Frame.add, noOperands]
    exact .operand derives
  · obtain ⟨first, conjunction, rfl, alternates, others⟩ := hasRead
    refine ⟨first, conjunction ++ .connective .and :: operand, by simp, alternates, ?_⟩
    rw [Frame.add, List.reverse_cons]
    exact others.and_last derives

/-- A complete frame denotes its predicate. -/
theorem Frame.HasRead.denotes
    {frame : Frame} {tokens : List (Token Atom)} (hasRead : frame.HasRead tokens) :
    Denotes .tree tokens frame.predicate := by
  refine ⟨_, hasRead.derives_next, ?_⟩
  simp [Interpretation.tree, Frame.predicate]

/-- A complete frame between parentheses is an operand. -/
theorem Frame.HasRead.derives_group
    {frame : Frame} {tokens : List (Token Atom)} (hasRead : frame.HasRead tokens) :
    Derives .tree .operand (.opening :: tokens ++ [.closing]) [frame.predicate] := by
  obtain ⟨alternatives, derives, joined⟩ := hasRead.denotes
  rw [← joined]
  exact .group derives

/-- The tokens in front of an open frame: those of the frames around, each with its parenthesis. -/
inductive IsAround : List (Token Atom) → List Frame → Prop where
  /-- No parenthesis is open. -/
  | none : IsAround [] []
  /-- One more parenthesis is open. -/
  | opened {tokens before : List (Token Atom)} {frame : Frame} {outer : List Frame}
      (around : IsAround tokens outer) (expects : frame.Expects before) :
      IsAround (tokens ++ before ++ [.opening]) (frame :: outer)

/-- What is read to the end has the tree that comes out. -/
theorem denotes_of_read
    (rest : List (Token Atom))
    {outer : List Frame} {around : List (Token Atom)} (isAround : IsAround around outer)
    {frame : Frame} {tokens : List (Token Atom)} {predicate : Predicate} :
    (frame.Expects tokens → readOperand frame outer rest = some predicate →
      Denotes .tree (around ++ tokens ++ rest) predicate) ∧
    (frame.HasRead tokens → readConnective frame outer rest = some predicate →
      Denotes .tree (around ++ tokens ++ rest) predicate) := by
  induction rest generalizing outer around frame tokens with
  | nil =>
      constructor
      · intro _ reads
        cases reads
      · intro hasRead reads
        cases isAround with
        | none =>
            cases reads
            simpa using hasRead.denotes
        | opened => cases reads
  | cons token rest inductionHypothesis =>
      constructor
      · intro expects reads
        cases token with
        | leaf condition =>
            have later := (inductionHypothesis isAround).2
              (expects.hasRead_add (.leaf condition)) reads
            simpa using later
        | opening =>
            have later := (inductionHypothesis (.opened isAround expects)).1
              (.inl ⟨.none, rfl⟩) reads
            simpa using later
        | connective joining => cases reads
        | closing => cases reads
      · intro hasRead reads
        cases token with
        | leaf condition => cases reads
        | opening => cases reads
        | connective joining =>
            cases joining with
            | and =>
                have later := (inductionHypothesis isAround).1
                  (.inr ⟨tokens, rfl, hasRead⟩) reads
                simpa using later
            | or =>
                have later := (inductionHypothesis isAround).1 hasRead.expects_or reads
                simpa using later
        | closing =>
            cases isAround with
            | none => cases reads
            | opened around expects =>
                have later := (inductionHypothesis around).2
                  (expects.hasRead_add hasRead.derives_group) reads
                simpa using later

/-- Reading gives the tree of a condition, and only conditions are read. -/
theorem read?_eq_some_iff {tokens : List (Token Atom)} {predicate : Predicate} :
    read? tokens = some predicate ↔ Denotes .tree tokens predicate := by
  constructor
  · intro reads
    have denotes := (denotes_of_read tokens .none).1 (.inl ⟨.none, rfl⟩) reads
    simpa using denotes
  · exact Denotes.read?_eq

/-! ## The tokens of a flat predicate -/

namespace Predicate

/-- The members of a conjunction are its operands. -/
theorem derives_memberTokens_and
    {members : List Predicate} (nonempty : members ≠ [])
    (each : ∀ member ∈ members, Derives .tree .operand (groupTokens member) [member]) :
    Derives .tree .conjunction (memberTokens .and members) members := by
  induction members with
  | nil => exact absurd rfl nonempty
  | cons member members inductionHypothesis =>
      rw [List.forall_mem_cons] at each
      cases members with
      | nil => exact .operand each.1
      | cons other members => exact .and each.1 (inductionHypothesis (by simp) each.2)

/-- Every member of a disjunction is a conjunction by itself. -/
theorem derives_memberTokens_or
    {members : List Predicate} (nonempty : members ≠ [])
    (each : ∀ member ∈ members, Derives .tree .operand (groupTokens member) [member]) :
    Derives .tree .disjunction (memberTokens .or members) members := by
  induction members with
  | nil => exact absurd rfl nonempty
  | cons member members inductionHypothesis =>
      rw [List.forall_mem_cons] at each
      cases members with
      | nil => exact .conjunction (.operand each.1)
      | cons other members => exact .or (.operand each.1) (inductionHypothesis (by simp) each.2)

/-- The tokens of several members denote their node. -/
theorem denotes_memberTokens
    (connective : Connective) {members : List Predicate} (several : 2 ≤ members.length)
    (each : ∀ member ∈ members, Derives .tree .operand (groupTokens member) [member]) :
    Denotes .tree (memberTokens connective members) (.node connective members) := by
  have nonempty : members ≠ [] := by
    rintro rfl
    simp at several
  rw [← gather_reverse connective several]
  cases connective with
  | and => exact ⟨_, .conjunction (derives_memberTokens_and nonempty each), rfl⟩
  | or => exact ⟨_, derives_memberTokens_or nonempty each, rfl⟩

/-- The tokens of a member of a node are an operand. -/
theorem Flat.derives_groupTokens {predicate : Predicate} (flat : predicate.Flat) :
    Derives .tree .operand predicate.groupTokens [predicate] := by
  induction flat with
  | atom condition => exact .leaf condition
  | @node connective members several _ _ inductionHypothesis =>
      obtain ⟨alternatives, derives, joined⟩ :=
        denotes_memberTokens connective several inductionHypothesis
      rw [groupTokens, ← joined]
      exact .group derives

/-- A flat predicate is the tree of its tokens. -/
theorem Flat.denotes_tokens {predicate : Predicate} (flat : predicate.Flat) :
    Denotes .tree predicate.tokens predicate := by
  cases flat with
  | atom condition => exact ⟨_, .conjunction (.operand (.leaf condition)), rfl⟩
  | node several _ flat =>
      exact denotes_memberTokens _ several fun member present =>
        (flat member present).derives_groupTokens

/-- A flat predicate is read back from its tokens. -/
theorem Flat.read?_tokens {predicate : Predicate} (flat : predicate.Flat) :
    read? predicate.tokens = some predicate :=
  flat.denotes_tokens.read?_eq

end Predicate
end Sql
end RowFilter
