import RowFilter.Proofs.Sql.Written

/-!
# Rendered predicates are unambiguous

A predicate that is built from atoms by joining is rendered token by token, and
its tokens have no other tree than the predicate itself.  So they determine the
predicate, and they are true when the predicate is.
-/

namespace RowFilter
namespace Sql

/-! ## Built predicates -/

namespace Predicate

/-- Predicates that come about from atoms by joining. -/
inductive Built : Predicate → Prop where
  /-- An atom by itself. -/
  | atom (condition : Atom) : Built (.atom condition)
  /-- Two built predicates, joined. -/
  | join (connective : Connective) {left right : Predicate}
      (leftBuilt : Built left) (rightBuilt : Built right) :
      Built (left.join connective right)

/-- What is built by joining is flat. -/
theorem Built.flat {predicate : Predicate} (built : predicate.Built) : predicate.Flat := by
  induction built with
  | atom condition => exact .atom condition
  | join connective _ _ leftHypothesis rightHypothesis =>
      exact leftHypothesis.join connective rightHypothesis

end Predicate

/-! ## The texts of tokens -/

/-- The texts of tokens; a leaf is rendered into the sink as it is when its turn comes. -/
def tokenTexts (sink : Sink) : List (Token Atom) → List String
  | [] => []
  | .leaf condition :: tokens =>
      ((Predicate.atom condition).render sink).1 ::
        tokenTexts ((Predicate.atom condition).render sink).2 tokens
  | .connective .and :: tokens => " AND " :: tokenTexts sink tokens
  | .connective .or :: tokens => " OR " :: tokenTexts sink tokens
  | .opening :: tokens => "(" :: tokenTexts sink tokens
  | .closing :: tokens => ")" :: tokenTexts sink tokens

theorem tokenTexts_eq_map (sink : Sink) (tokens : List (Token Atom)) :
    tokenTexts sink tokens = (writtenAll sink tokens).map Token.text := by
  induction tokens generalizing sink with
  | nil => rfl
  | cons token tokens inductionHypothesis =>
      cases token with
      | leaf condition =>
          have rendered : (Predicate.atom condition).render sink =
              ((condition.written sink).text, sink.bindAll condition.params) :=
            render_atom condition sink
          rw [tokenTexts, rendered, inductionHypothesis]
          rfl
      | connective joining => cases joining <;> exact congrArg _ (inductionHypothesis sink)
      | opening => exact congrArg _ (inductionHypothesis sink)
      | closing => exact congrArg _ (inductionHypothesis sink)

/-! ## Images of trees -/

variable {Meaning : Type}

/-- A map of predicates that respects what leaves and connectives stand for. -/
structure Homomorphism (interpretation : Interpretation Meaning) where
  /-- The meaning of a predicate. -/
  map : Predicate → Meaning
  /-- Atoms mean what they mean as leaves. -/
  map_leaf : ∀ condition, map (.atom condition) = interpretation.leaf condition
  /-- Joined members mean what their meanings mean when they are joined. -/
  map_join : ∀ connective members,
    map (Interpretation.tree.join connective members) =
      interpretation.join connective (members.map map)

variable {interpretation : Interpretation Meaning}

/-- What is derived as trees is derived as what the trees mean. -/
theorem Derives.map
    (homomorphism : Homomorphism interpretation)
    {level : Level} {tokens : List (Token Atom)} {members : List Predicate}
    (derives : Derives .tree level tokens members) :
    Derives interpretation level tokens (members.map homomorphism.map) := by
  induction derives with
  | leaf condition =>
      rw [List.map_singleton, Interpretation.tree, homomorphism.map_leaf]
      exact .leaf condition
  | group _ inductionHypothesis =>
      rw [List.map_singleton, homomorphism.map_join]
      exact .group inductionHypothesis
  | operand _ inductionHypothesis => exact .operand inductionHypothesis
  | and _ _ firstHypothesis othersHypothesis => exact .and firstHypothesis othersHypothesis
  | conjunction _ inductionHypothesis =>
      rw [List.map_singleton, homomorphism.map_join]
      exact .conjunction inductionHypothesis
  | or _ _ firstHypothesis othersHypothesis =>
      rw [List.map_cons, homomorphism.map_join]
      exact .or firstHypothesis othersHypothesis

/-- Whatever meanings are derived, they are those of derived trees. -/
theorem Derives.exists_trees
    (homomorphism : Homomorphism interpretation)
    {level : Level} {tokens : List (Token Atom)} {meanings : List Meaning}
    (derives : Derives interpretation level tokens meanings) :
    ∃ members, Derives .tree level tokens members ∧ members.map homomorphism.map = meanings := by
  induction derives with
  | leaf condition =>
      exact ⟨[.atom condition], .leaf condition, by simp [homomorphism.map_leaf]⟩
  | group _ inductionHypothesis =>
      obtain ⟨members, derives, rfl⟩ := inductionHypothesis
      exact ⟨_, .group derives, by simp [homomorphism.map_join]⟩
  | operand _ inductionHypothesis =>
      obtain ⟨members, derives, image⟩ := inductionHypothesis
      obtain ⟨member, rfl, rfl⟩ := List.map_eq_singleton_iff.1 image
      exact ⟨_, .operand derives, rfl⟩
  | and _ _ firstHypothesis othersHypothesis =>
      obtain ⟨members, derives, image⟩ := firstHypothesis
      obtain ⟨member, rfl, rfl⟩ := List.map_eq_singleton_iff.1 image
      obtain ⟨others, derivesOthers, rfl⟩ := othersHypothesis
      exact ⟨_, .and derives derivesOthers, rfl⟩
  | conjunction _ inductionHypothesis =>
      obtain ⟨members, derives, rfl⟩ := inductionHypothesis
      exact ⟨_, .conjunction derives, by simp [homomorphism.map_join]⟩
  | or _ _ firstHypothesis othersHypothesis =>
      obtain ⟨members, derives, rfl⟩ := firstHypothesis
      obtain ⟨others, derivesOthers, rfl⟩ := othersHypothesis
      exact ⟨_, .or derives derivesOthers, by simp [homomorphism.map_join]⟩

/-- A condition means what its trees mean. -/
theorem denotes_iff_exists_tree
    (homomorphism : Homomorphism interpretation)
    {tokens : List (Token Atom)} {meaning : Meaning} :
    Denotes interpretation tokens meaning ↔
      ∃ predicate, Denotes .tree tokens predicate ∧ homomorphism.map predicate = meaning := by
  constructor
  · rintro ⟨meanings, derives, rfl⟩
    obtain ⟨members, trees, rfl⟩ := derives.exists_trees homomorphism
    exact ⟨_, ⟨members, trees, rfl⟩, homomorphism.map_join .or members⟩
  · rintro ⟨predicate, ⟨members, trees, rfl⟩, rfl⟩
    exact ⟨_, trees.map homomorphism, (homomorphism.map_join .or members).symm⟩

/-! ## Truth -/

/-- Truth values, by the truth of atoms: AND asks for all members, OR for some member. -/
def Interpretation.truth (atomTruth : Atom → Bool) : Interpretation Bool where
  leaf := atomTruth
  join
    | .and, truths => truths.all id
    | .or, truths => truths.any id
  join_singleton connective truth := by cases connective <;> simp

/-- Joining trees makes a node, or leaves a single tree as it is. -/
theorem Interpretation.tree_join_eq
    (connective : Connective) (members : List Predicate) :
    Interpretation.tree.join connective members = .node connective members ∨
      ∃ member, members = [member] ∧ Interpretation.tree.join connective members = member := by
  match members with
  | [] => exact .inl rfl
  | [member] => exact .inr ⟨member, rfl, rfl⟩
  | first :: second :: others => exact .inl (gather_reverse connective (by simp))

/-- Evaluation gives the truth of a tree. -/
def Homomorphism.eval (atomTruth : Atom → Bool) : Homomorphism (.truth atomTruth) where
  map := Predicate.eval atomTruth
  map_leaf _ := rfl
  map_join connective members := by
    rcases Interpretation.tree_join_eq connective members with node | ⟨member, rfl, single⟩
    · rw [node]
      cases connective <;> simp [Interpretation.truth]
    · rw [single, List.map_singleton, Interpretation.join_singleton]

/-! ## The tokens of a built predicate -/

/-- The tokens of a flat predicate denote no other tree. -/
theorem Predicate.Flat.denotes_tokens_iff
    {predicate formula : Predicate} (flat : predicate.Flat) :
    Denotes .tree predicate.tokens formula ↔ formula = predicate := by
  constructor
  · intro denotes
    exact Option.some.inj (denotes.read?_eq.symm.trans flat.read?_tokens)
  · rintro rfl
    exact flat.denotes_tokens

/--
A built predicate is rendered as the texts of its tokens, whose leaves are its
atoms in order.  The predicate is the only tree of the tokens, so they belong to
no other predicate, and reading truth values for the leaves gives its truth.
-/
theorem tokens_denote_only_built
    {predicate : Predicate}
    (built : predicate.Built) :
    (∀ sink, (predicate.render sink).1 = String.join (tokenTexts sink predicate.tokens)) ∧
    predicate.tokens.filterMap Token.leaf? = predicate.atoms ∧
    (∀ formula, Denotes .tree predicate.tokens formula ↔ formula = predicate) ∧
    (∀ other : Predicate, other.Built → other.tokens = predicate.tokens → other = predicate) ∧
    ∀ atomTruth truth,
      Denotes (.truth atomTruth) predicate.tokens truth ↔ truth = predicate.eval atomTruth := by
  have flat := built.flat
  refine ⟨fun sink => ?_, predicate.filterMap_leaf?_tokens, fun formula => ?_, ?_, ?_⟩
  · rw [predicate.render_eq, tokenTexts_eq_map, conditionText]
  · exact flat.denotes_tokens_iff
  · intro other otherBuilt same
    exact flat.denotes_tokens_iff.1 (same ▸ otherBuilt.flat.denotes_tokens)
  · intro atomTruth truth
    rw [denotes_iff_exists_tree (.eval atomTruth)]
    simp only [flat.denotes_tokens_iff, exists_eq_left]
    exact eq_comm

namespace Sample

/-- A column equals one. -/
def isOne (name : String) : Predicate :=
  .atom (.compare (.bare name) .eq (.int 1))

/-- Groups in groups, where the second conjunct is a conjunction again. -/
def nested : Predicate :=
  ((isOne "A").join .or ((isOne "B").join .and (isOne "C"))).join .and
    ((isOne "D").join .and (isOne "E"))

theorem nested_built : nested.Built := by
  have isOne_built (name : String) : (isOne name).Built := .atom _
  refine .join .and (.join .or (isOne_built "A") ?_) ?_
  · exact .join .and (isOne_built "B") (isOne_built "C")
  · exact .join .and (isOne_built "D") (isOne_built "E")

end Sample

/--
Groups in groups: the second conjunction is spliced into the outer one, and the
text with its parentheses has no other reading.
-/
theorem tokens_denote_only_built_nested :
    Sample.nested.Built ∧
    (Sample.nested.render { style := .question }).1 =
      "(A = ? OR (B = ? AND C = ?)) AND D = ? AND E = ?" ∧
    (∀ formula, Denotes .tree Sample.nested.tokens formula ↔ formula = Sample.nested) ∧
    ∀ atomTruth truth,
      Denotes (.truth atomTruth) Sample.nested.tokens truth ↔
        truth = Sample.nested.eval atomTruth := by
  obtain ⟨rendered, _, trees, _, truths⟩ := tokens_denote_only_built Sample.nested_built
  exact ⟨Sample.nested_built, (rendered { style := .question }).trans rfl, trees, truths⟩

end Sql
end RowFilter
